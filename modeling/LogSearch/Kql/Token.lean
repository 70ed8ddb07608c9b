import LogSearch.Comparison

/-!
# Tokens of the query languages

The nested query language and the flat specifiers share one type of tokens.  A token keeps the text
it stands for, escapes resolved, and the number of bytes in front of it.

## What is here

* `TokenKind` and `Token`.
-/

set_option autoImplicit false
namespace LogSearch.Kql

/-- What a token is. -/
inductive TokenKind
  /-- A literal without quotes. -/
  | term
  /-- A literal between quotes. -/
  | quoted
  /-- A bare `*`. -/
  | wildcard
  /-- `:` between a field and its values. -/
  | colon
  /-- `=` in a specifier. -/
  | equals
  /-- `~` in a specifier. -/
  | tilde
  | comparison (op : Comparison)
  | and
  | or
  | not
  | leftParen
  | rightParen
  | leftBrace
  | rightBrace
  deriving DecidableEq, Repr

/-- A token of a query. -/
structure Token where
  kind : TokenKind
  /-- The text it stands for. -/
  value : String
  /-- The number of bytes in front of it. -/
  offset : Nat
  deriving DecidableEq, Repr

end LogSearch.Kql
