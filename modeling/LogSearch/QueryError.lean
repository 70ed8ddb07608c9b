import LogSearch.Json.Fault

/-!
# What can be wrong with a query

Both query languages, the nested one and the flat specifiers, share one type of errors.  An error
says where it is, by the number of bytes in front of it, and what would have been right.

## What is here

* `Expectation` — what the reader of tokens was waiting for;
* `QueryError` — the errors, with their `message`.
-/

set_option autoImplicit false
namespace LogSearch

/-- What was waited for where something else stood. -/
inductive Expectation
  /-- The start of an operand. -/
  | operand
  /-- A field name, where a lone `*` stood. -/
  | fieldName
  /-- The value of a comparison. -/
  | comparand
  /-- The value of a field, or a list of values. -/
  | value
  /-- An operator, or the end of the query. -/
  | operatorOrEnd
  /-- An operator, or the closing delimiter of the innermost group. -/
  | operatorOrCloser
  /-- The other closing delimiter. -/
  | matchingCloser
  deriving DecidableEq, Repr

/-- The expectation in words. -/
def Expectation.describe : Expectation → String
  | .operand => "a field name, `not` or `(`"
  | .fieldName => "a field name"
  | .comparand => "a value to compare against"
  | .value => "a value, `*` or `(`"
  | .operatorOrEnd => "`and`, `or` or the end of the query"
  | .operatorOrCloser => "`and`, `or` or a closing delimiter"
  | .matchingCloser => "a matching closing delimiter"

/-- An error in a query. -/
inductive QueryError
  /-- A backslash is followed by something that needs none. -/
  | invalidEscape (sequence : String) (offset : Nat)
  /-- A quoted text has no closing quote. -/
  | unclosedQuote (offset : Nat)
  /-- A quoted text is no string literal. -/
  | invalidQuotedString (literal : String) (reason : Json.Fault)
  /-- A token that cannot stand where it does. -/
  | unexpectedToken (found : String) (offset : Nat) (near : String) (expected : Expectation)
  /-- The query ends too early. -/
  | unexpectedEnd (expected : Expectation)
  /-- There is no query. -/
  | emptyQuery
  /-- A parenthesis is left open. -/
  | missingParenthesis (offset : Nat)
  /-- A brace is left open. -/
  | missingBrace (offset : Nat)
  /-- Parentheses and braces are nested too deep. -/
  | tooDeep (limit : Nat)
  /-- A specifier that is neither a field nor a field, an operator and a value. -/
  | invalidSpecifier (specifier : String) (parts : List String)
  /-- A token claims a place that the query text does not have. -/
  | strayOffset (offset : Nat)
  deriving DecidableEq, Repr

/-- A summary of the query language, for people who made an error in it. -/
def queryHelp : String :=
  "A query is built from `field:value`, `field:(a or b)`, `field<value` (or <=, >, >=), " ++
    "`field:\x7b nested query \x7d`, `field:*` or a bare `field`, " ++
    "combined with `and`, `or`, `not` and parentheses. " ++
    "Escape special characters (\\():<>\"*\x7b\x7d) with '\\'."

/-- The error in words. -/
def QueryError.message : QueryError → String
  | .invalidEscape sequence offset =>
    s!"Invalid escape sequence `{sequence}` at offset {offset}. {queryHelp}"
  | .unclosedQuote offset => s!"Unclosed quoted string starting at offset {offset}"
  | .invalidQuotedString literal reason =>
    s!"Invalid quoted string {literal}: {reason.message}"
  | .unexpectedToken found offset near expected =>
    s!"Unexpected `{found}` at offset {offset}, near `{near}`: expected {expected.describe}. " ++
      queryHelp
  | .unexpectedEnd expected =>
    s!"Unexpected end of query: expected {expected.describe}. {queryHelp}"
  | .emptyQuery => "Empty query"
  | .missingParenthesis offset => s!"Missing closing parenthesis for `(` at offset {offset}"
  | .missingBrace offset => s!"Missing closing brace for `\x7b` at offset {offset}"
  | .tooDeep limit => s!"Query is nested more than {limit} levels deep"
  | .invalidSpecifier specifier parts =>
    s!"Invalid specifier {Text.quote specifier}:\n    Tokens: {Text.quoteList parts}\n\n" ++
      "    A specifier can either be a single field name (for exists), or a field name, " ++
      "operator and value.\n    The available operators are ['=', '<', '>', '~'].\n" ++
      "    Escape them with '\\' to use them in a field name or value."
  | .strayOffset offset => s!"No token can stand at offset {offset}"

end LogSearch
