import LogSearch.Comparison
import LogSearch.Json.Writer

/-!
# Query documents

What a search engine is asked: conditions on single fields, scopes over the objects of an array
field, and clauses that combine other queries.  A query is sent as a JSON document with one field
that names its kind.

## What is here

* `Query` — the queries, with decidable equality;
* `Query.allOf`, `Query.anyOf`, `Query.mustAll`, `Query.negate` — queries with a single clause;
* `Query.under` — a query with every field and path moved below a field, and `Query.within`, which
  moves a query into a nested scope;
* `Query.toJson` — the document; empty clauses are left out.
-/

set_option autoImplicit false
namespace LogSearch

/-- A query to the search engine. -/
inductive Query
  /-- The field has some value. -/
  | present (field : String)
  /-- The analysed text of the field matches. -/
  | matchText (field text : String)
  /-- The same, in the long form of the document. -/
  | matchQuery (field text : String)
  /-- The text of the field starts with the words of a phrase. -/
  | matchPhrasePrefix (field text : String)
  /-- The field has exactly this value. -/
  | term (field value : String)
  /-- The field lies within the bounds, which keep their order. -/
  | range (field : String) (bounds : List (Comparison × String))
  /-- Some object at the path meets the query. -/
  | nested (path : String) (query : Query)
  /-- All of `must` and `filter` hold, none of `mustNot`, and of `should` at least so many. -/
  | bool (must filter should mustNot : List Query) (minimumShouldMatch : Option Nat)
  deriving Repr, Inhabited

namespace Query

/-! ## Equality -/

mutual

/-- Decides whether two queries are the same. -/
def decideEq : (a b : Query) → Decidable (a = b)
  | .present f, b => match b with
    | .present g => decidable_of_iff (f = g) (by simp)
    | .matchText .. | .matchQuery .. | .matchPhrasePrefix .. | .term .. | .range .. | .nested ..
    | .bool .. => isFalse nofun
  | .matchText f s, b => match b with
    | .matchText g t => decidable_of_iff (f = g ∧ s = t) (by simp)
    | .present _ | .matchQuery .. | .matchPhrasePrefix .. | .term .. | .range .. | .nested ..
    | .bool .. => isFalse nofun
  | .matchQuery f s, b => match b with
    | .matchQuery g t => decidable_of_iff (f = g ∧ s = t) (by simp)
    | .present _ | .matchText .. | .matchPhrasePrefix .. | .term .. | .range .. | .nested ..
    | .bool .. => isFalse nofun
  | .matchPhrasePrefix f s, b => match b with
    | .matchPhrasePrefix g t => decidable_of_iff (f = g ∧ s = t) (by simp)
    | .present _ | .matchText .. | .matchQuery .. | .term .. | .range .. | .nested ..
    | .bool .. => isFalse nofun
  | .term f s, b => match b with
    | .term g t => decidable_of_iff (f = g ∧ s = t) (by simp)
    | .present _ | .matchText .. | .matchQuery .. | .matchPhrasePrefix .. | .range .. | .nested ..
    | .bool .. => isFalse nofun
  | .range f bs, b => match b with
    | .range g cs => decidable_of_iff (f = g ∧ bs = cs) (by simp)
    | .present _ | .matchText .. | .matchQuery .. | .matchPhrasePrefix .. | .term .. | .nested ..
    | .bool .. => isFalse nofun
  | .nested p x, b => match b with
    | .nested q y => have := decideEq x y; decidable_of_iff (p = q ∧ x = y) (by simp)
    | .present _ | .matchText .. | .matchQuery .. | .matchPhrasePrefix .. | .term .. | .range ..
    | .bool .. => isFalse nofun
  | .bool a1 a2 a3 a4 m, b => match b with
    | .bool b1 b2 b3 b4 n =>
      have := decideEqList a1 b1
      have := decideEqList a2 b2
      have := decideEqList a3 b3
      have := decideEqList a4 b4
      decidable_of_iff (a1 = b1 ∧ a2 = b2 ∧ a3 = b3 ∧ a4 = b4 ∧ m = n) (by simp)
    | .present _ | .matchText .. | .matchQuery .. | .matchPhrasePrefix .. | .term .. | .range ..
    | .nested .. => isFalse nofun

/-- Decides whether two lists of queries are the same. -/
def decideEqList : (as bs : List Query) → Decidable (as = bs)
  | [], bs => match bs with
    | [] => isTrue rfl
    | _ :: _ => isFalse nofun
  | a :: as, bs => match bs with
    | [] => isFalse nofun
    | b :: bs =>
      have := decideEq a b
      have := decideEqList as bs
      decidable_of_iff (a = b ∧ as = bs) (by simp)

end

instance : DecidableEq Query := decideEq

/-! ## Queries with a single clause -/

/-- Every query must hold, without scoring. -/
def allOf (queries : List Query) : Query := .bool [] queries [] [] none

/-- At least one query must hold. -/
def anyOf (queries : List Query) : Query := .bool [] [] queries [] (some 1)

/-- Every query must hold, with scoring. -/
def mustAll (queries : List Query) : Query := .bool queries [] [] [] none

/-- The query must not hold. -/
def negate (query : Query) : Query := .bool [] [] [] [query] none

/-- A range with a single bound. -/
def compare (field : String) (op : Comparison) (value : String) : Query :=
  .range field [(op, value)]

/-! ## Nested scopes -/

/-- The absolute name of a field of the objects at a path. -/
def joinPath (path field : String) : String := path ++ "." ++ field

mutual

/-- The query with all its fields and paths below `path`. -/
def under (path : String) : Query → Query
  | .present field => .present (joinPath path field)
  | .matchText field text => .matchText (joinPath path field) text
  | .matchQuery field text => .matchQuery (joinPath path field) text
  | .matchPhrasePrefix field text => .matchPhrasePrefix (joinPath path field) text
  | .term field value => .term (joinPath path field) value
  | .range field bounds => .range (joinPath path field) bounds
  | .nested inner query => .nested (joinPath path inner) (query.under path)
  | .bool must filter should mustNot minimum =>
    .bool (underAll path must) (underAll path filter) (underAll path should)
      (underAll path mustNot) minimum

/-- The queries with all their fields and paths below `path`. -/
def underAll (path : String) : List Query → List Query
  | [] => []
  | q :: qs => q.under path :: underAll path qs

end

/-- Some object at the path meets the query, whose fields are relative to the path. -/
def within (path : String) (query : Query) : Query := .nested path (query.under path)

/-! ## Documents -/

/-- A clause as a field, unless it is empty. -/
def clause (name : String) (items : List Json) : List (String × Json) :=
  if items.isEmpty then [] else [(name, .array items)]

/-- A document with a single field. -/
def single (name : String) (value : Json) : Json := .object [(name, value)]

mutual

/-- The document of a query. -/
def toJson : Query → Json
  | .present field => single "exists" (single "field" (.string field))
  | .matchText field text => single "match" (single field (.string text))
  | .matchQuery field text => single "match" (single field (single "query" (.string text)))
  | .matchPhrasePrefix field text =>
    single "match_phrase_prefix" (single field (single "query" (.string text)))
  | .term field value => single "term" (single field (single "value" (.string value)))
  | .range field bounds =>
    single "range" (single field (.object (bounds.map fun (op, value) => (op.name, .string value))))
  | .nested path query =>
    single "nested" (.object
      [("path", .string path), ("query", query.toJson), ("score_mode", .string "none")])
  | .bool must filter should mustNot minimum =>
    single "bool" (.object
      (clause "must" (toJsonAll must) ++ clause "filter" (toJsonAll filter) ++
        clause "should" (toJsonAll should) ++ clause "must_not" (toJsonAll mustNot) ++
        minimum.toList.map fun n => ("minimum_should_match", .ofNat n)))

/-- The documents of several queries. -/
def toJsonAll : List Query → List Json
  | [] => []
  | q :: qs => q.toJson :: toJsonAll qs

end

/-- The text in which a query is sent. -/
def wire (query : Query) : String := query.toJson.compact

end Query

end LogSearch
