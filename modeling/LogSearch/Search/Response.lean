import LogSearch.Json.Record

/-!
# Answers to a search

The server answers a request with a page of hits.  Everything but the list of hits may be missing
and then has a plain default; fields that are not asked for are skipped.

## What is here

* `Hit` — a document that was found, with the sort values that place it;
* `SearchResponse` — a page of hits;
* `SearchResponse.decode` and `SearchResponse.toJson` — from and to text.
-/

set_option autoImplicit false
namespace LogSearch

open Json (Reader Record slot)

/-- A document that was found. -/
structure Hit where
  index : String
  id : String
  /-- The document itself. -/
  source : Json
  /-- The place of the hit in the order of the search. -/
  sort : List Json
  deriving DecidableEq, Repr

/-- A page of hits. -/
structure SearchResponse where
  /-- The milliseconds the search took. -/
  took : Nat
  timedOut : Bool
  hits : List Hit
  deriving DecidableEq, Repr

/-- The page behind the last hit. -/
def SearchResponse.empty : SearchResponse := ⟨0, false, []⟩

/-! ## Writing -/

/-- The document of a hit. -/
def Hit.toJson (hit : Hit) : Json :=
  .object [("_index", .string hit.index), ("_id", .string hit.id), ("_source", hit.source),
    ("sort", .array hit.sort)]

/-- The document of a page. -/
def SearchResponse.toJson (page : SearchResponse) : Json :=
  .object [("took", .ofNat page.took), ("timed_out", .bool page.timedOut),
    ("hits", .object [("hits", .array (page.hits.map Hit.toJson))])]

/-! ## Reading -/

/-- Any value, as it is stored. -/
def Json.readStored (nesting : Nat) : Reader Json := fun cs =>
  (Json.readValue nesting cs).map fun (value, rest) => (value.canonical, rest)

/-- What has been read of a hit. -/
structure Hit.Parts where
  index : Option String := none
  id : Option String := none
  source : Option Json := none
  sort : Option (List Json) := none

/-- How a hit is read. -/
def Hit.record : Record Hit.Parts Hit where
  kind := "struct Hit"
  empty := {}
  slots :=
    [slot "_index" (·.index) (fun s p => { p with index := some s }) fun _ => Json.readText,
      slot "_id" (·.id) (fun s p => { p with id := some s }) fun _ => Json.readText,
      slot "_source" (·.source) (fun v p => { p with source := some v }) Json.readStored,
      slot "sort" (·.sort) (fun vs p => { p with sort := some vs })
        fun nesting => Json.readList nesting Json.readStored]
  finish parts :=
    .ok ⟨parts.index.getD "", parts.id.getD "", parts.source.getD .null, parts.sort.getD []⟩

/-- How the list of hits is read, which is a record with one field. -/
def Hit.listRecord : Record (Option (List Hit)) (List Hit) where
  kind := "struct Hits"
  empty := none
  slots := [slot "hits" (fun hits => hits) (fun hits _ => some hits)
    fun nesting => Json.readList nesting Hit.record.read]
  finish hits := .ok (hits.getD [])

/-- What has been read of a page. -/
structure SearchResponse.Parts where
  took : Option Nat := none
  timedOut : Option Bool := none
  hits : Option (List Hit) := none

/-- How a page is read; the hits must be there. -/
def SearchResponse.record : Record SearchResponse.Parts SearchResponse where
  kind := "struct SearchResponse"
  empty := {}
  slots :=
    [slot "took" (·.took) (fun n p => { p with took := some n })
        fun _ => Json.readNatural (Nat.pow 2 64 - 1) "u64",
      slot "timed_out" (·.timedOut) (fun b p => { p with timedOut := some b })
        fun _ => Json.readFlag,
      slot "hits" (·.hits) (fun hits p => { p with hits := some hits }) Hit.listRecord.read]
  finish parts :=
    match parts.hits with
    | some hits => .ok ⟨parts.took.getD 0, parts.timedOut.getD false, hits⟩
    | none => .error "hits"

/-- The page that a text holds. -/
def SearchResponse.decode (text : String) : Except Json.Fault SearchResponse :=
  Json.decodeWith (SearchResponse.record.read Json.maxNesting) text.toList

end LogSearch
