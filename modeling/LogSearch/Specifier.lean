import LogSearch.Kql.Token
import LogSearch.Query.Basic
import LogSearch.QueryError

/-!
# Specifiers

The flat query language: a specifier is a field, or a field, an operator and a value, such as
`http.status>499`.  Several specifiers must all hold.  Everything but the four operators belongs to
the texts around them; a backslash in front of an operator takes its meaning, and all other
backslashes are kept.

## What is here

* `Specifier.tokenize` — cuts at the operators that have no backslash in front of them;
* `Specifier.parse` — the specifier a text spells;
* `Specifier.print` — its text again, without backslashes, so a field or value with an operator in
  it does not read back;
* `Specifier.toQuery` — the query it asks for.
-/

set_option autoImplicit false
namespace LogSearch

open Kql (Token TokenKind)

/-- What a specifier asks of its field. -/
inductive SpecifierOperator
  | present
  | equals
  | lessThan
  | greaterThan
  | matches
  deriving DecidableEq, Repr

/-- A condition on one field; only `present` has no value. -/
structure Specifier where
  field : String
  operator : SpecifierOperator
  value : Option String
  deriving DecidableEq, Repr

namespace Specifier

/-! ## Reading -/

/-- The token kind of an operator character. -/
def operatorKind? (c : Char) : Option TokenKind :=
  match c with
  | '=' => some .equals
  | '<' => some (.comparison .lt)
  | '>' => some (.comparison .gt)
  | '~' => some .tilde
  | _ => none

/-- A text without the backslashes in front of operators. -/
def unescape : List Char → List Char
  | [] => []
  | [c] => [c]
  | c :: d :: rest =>
    if c = '\\' && (operatorKind? d).isSome then d :: unescape rest else c :: unescape (d :: rest)

/-- The term gathered so far, newest character first, as a token that starts at `start`. -/
def flush (start : Nat) (gathered : List Char) : List Token :=
  if gathered.isEmpty then []
  else [⟨.term, String.ofList (unescape gathered.reverse), start⟩]

/-- Cuts the text from `offset` on.  `gathered` is the term before it, newest character first, which
starts at `start`. -/
def cut (start offset : Nat) (escaped : Bool) (gathered : List Char) : List Char → List Token
  | [] => flush start gathered
  | c :: rest =>
    let next := offset + c.utf8Size
    match operatorKind? c, escaped with
    | some kind, false =>
      flush start gathered ++ ⟨kind, c.toString, offset⟩ :: cut next next (c = '\\') [] rest
    | _, _ =>
      let start := if gathered.isEmpty then offset else start
      cut start next (c = '\\') (c :: gathered) rest

/-- The tokens of a specifier. -/
def tokenize (text : String) : List Token := cut 0 0 false [] text.toList

/-- The operator a token spells. -/
def operator? (kind : TokenKind) : Option SpecifierOperator :=
  match kind with
  | .equals => some .equals
  | .comparison .lt => some .lessThan
  | .comparison .gt => some .greaterThan
  | .tilde => some .matches
  | _ => none

/-- The specifier a text spells. -/
def parse (text : String) : Except QueryError Specifier :=
  let tokens := tokenize text
  let invalid := .error (.invalidSpecifier text (tokens.map (·.value)))
  match tokens with
  | [field] => if field.kind = .term then .ok ⟨field.value, .present, none⟩ else invalid
  | [field, operator, value] =>
    match operator? operator.kind with
    | some found =>
      if field.kind = .term && value.kind = .term then .ok ⟨field.value, found, some value.value⟩
      else invalid
    | none => invalid
  | _ => invalid

/-! ## Writing -/

/-- The sign of an operator. -/
def sign : SpecifierOperator → String
  | .present => ""
  | .equals => "="
  | .lessThan => "<"
  | .greaterThan => ">"
  | .matches => "~"

/-- The text of a specifier. -/
def print (s : Specifier) : String :=
  match s.operator with
  | .present => s.field
  | operator => s.field ++ sign operator ++ s.value.getD ""

/-! ## Queries -/

/-- The text in front of a final `*`. -/
def beforeStar? (text : String) : Option String :=
  if text.toList.getLast? = some '*' then some (String.ofList text.toList.dropLast) else none

/-- The query a specifier asks for.  A match that ends in `*` is one of a phrase by its start. -/
def toQuery (s : Specifier) : Query :=
  let value := s.value.getD ""
  match s.operator with
  | .present => .present s.field
  | .equals => .term s.field value
  | .lessThan => .compare s.field .lt value
  | .greaterThan => .compare s.field .gt value
  | .matches =>
    match beforeStar? value with
    | some start => .matchPhrasePrefix s.field start
    | none => .matchQuery s.field value

end Specifier

/-- The query that the text of a specifier asks for. -/
def Query.ofSpecifier (text : String) : Except QueryError Query :=
  (Specifier.parse text).map Specifier.toQuery

/-- The queries of several specifiers, or the error of the first that is wrong. -/
def Query.ofSpecifiers : List String → Except QueryError (List Query)
  | [] => .ok []
  | text :: texts => do
    let query ← Query.ofSpecifier text
    return query :: (← Query.ofSpecifiers texts)

end LogSearch
