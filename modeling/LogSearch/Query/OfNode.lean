import LogSearch.Kql.Parser
import LogSearch.Query.Basic

/-!
# From query trees to query documents

Each kind of node asks for one kind of query; the values of a field are spread over it, so that
`tag:(a or b)` asks for `tag:a` or `tag:b`.  Nested scopes are built from the inside out: the fields
of a scope are moved below its path once the whole scope is known.

## What is here

* `Query.ofValues`, `Query.ofNode` — the queries of value lists and of trees;
* `Query.ofKql` — the query of a text.
-/

set_option autoImplicit false
namespace LogSearch.Query

open Kql (Node Values)

mutual

/-- The query that asks a field for values. -/
def ofValues (field : String) : Values → Query
  | .wildcard => .present field
  | .literal text => .matchText field text
  | .or values => anyOf (ofValuesList field values)
  | .and values => allOf (ofValuesList field values)
  | .not values => (ofValues field values).negate

/-- The queries that ask a field for each of several values. -/
def ofValuesList (field : String) : List Values → List Query
  | [] => []
  | v :: vs => ofValues field v :: ofValuesList field vs

end

mutual

/-- The query that a tree asks for. -/
def ofNode : Node → Query
  | .and children => allOf (ofNodes children)
  | .or children => anyOf (ofNodes children)
  | .not operand => (ofNode operand).negate
  | .field name values => ofValues name values
  | .compare name op value => compare name op value
  | .present name => .present name
  | .nested name query => within name (ofNode query)

/-- The queries that several trees ask for. -/
def ofNodes : List Node → List Query
  | [] => []
  | n :: ns => ofNode n :: ofNodes ns

end

/-- The query that a text in the query language asks for. -/
def ofKql (limit : Nat) (text : String) : Except QueryError Query :=
  (Kql.parse limit text).map ofNode

end LogSearch.Query
