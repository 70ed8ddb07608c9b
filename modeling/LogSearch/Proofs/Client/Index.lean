import LogSearch.Client.Backend

/-!
# A backend with an index

A backend that has an index answers a request from the documents that it holds: with the first ones
behind the cursor, in the order of their sort values.  The index may be another one at every request,
and the backend may be out of reach for a while.

Sort values are what the backend orders its documents by, and nobody else compares them; all that is
asked of the order is that it is a strict one, and that it tells the documents of an index apart.

## What is here

* `KeyOrder`, `Index` — documents in the order of their sort values;
* `Index.page` — the documents that a request asks for, with what a page says about the index:
  nothing in front of the cursor is in it (`isBehind_of_mem_page`) and nothing behind the cursor is
  left out in front of what is in it (`mem_page_or`);
* `Moment`, `Backend.changing` — a backend whose index changes from request to request.
-/

set_option autoImplicit false
namespace LogSearch

/-- A strict order of sort values. -/
structure KeyOrder where
  precedes : List Json → List Json → Prop
  decidable : DecidableRel precedes
  irrefl : ∀ key, ¬ precedes key key
  trans : ∀ {a b c}, precedes a b → precedes b c → precedes a c

namespace KeyOrder

variable {order : KeyOrder}

instance : DecidableRel order.precedes := order.decidable

/-- Every hit has sort values that precede those of all hits behind it. -/
def Increasing (order : KeyOrder) (hits : List Hit) : Prop :=
  hits.Pairwise fun a b ↦ order.precedes a.sort b.sort

instance (hits : List Hit) : Decidable (order.Increasing hits) :=
  inferInstanceAs (Decidable (hits.Pairwise _))

/-- Whether a hit is behind a cursor; without a cursor all are. -/
def isBehind (order : KeyOrder) (after : Option (List Json)) (hit : Hit) : Bool :=
  after.all fun key ↦ order.precedes key hit.sort

/-- A hit is behind the last of some hits in order just if it is behind all of them. -/
theorem isBehind_getLast?_iff {hits : List Hit} (h : order.Increasing hits) (hit : Hit) :
    order.isBehind (hits.getLast?.map Hit.sort) hit = true ↔
      ∀ before ∈ hits, order.precedes before.sort hit.sort := by
  rcases List.eq_nil_or_concat hits with rfl | ⟨hits, last, rfl⟩
  · simp [isBehind]
  · rw [List.concat_eq_append] at h ⊢
    have hlast : ∀ before ∈ hits, order.precedes before.sort last.sort := fun before hmem ↦
      (List.pairwise_append.1 h).2.2 before hmem last (List.mem_singleton_self last)
    rw [List.getLast?_concat, Option.map_some, isBehind, Option.all_some, decide_eq_true_iff]
    constructor
    · intro hbehind before hmem
      rcases List.mem_append.1 hmem with hmem | hmem
      · exact order.trans (hlast before hmem) hbehind
      · rwa [List.mem_singleton.1 hmem]
    · exact fun hall ↦ hall last (by simp)

end KeyOrder

/-! ## Pages of an index -/

/-- The documents of an index in their order.  Each has sort values of its own. -/
structure Index (order : KeyOrder) where
  hits : List Hit
  increasing : order.Increasing hits
  keyed : ∀ hit ∈ hits, hit.sort ≠ []

namespace Index

variable {order : KeyOrder} (index : Index order) {request : SearchRequest}

/-- The documents that a request asks for: so many of those behind its cursor, the first ones. -/
def page (request : SearchRequest) : List Hit :=
  (index.hits.filter (order.isBehind request.after)).take request.size

theorem page_sublist : (index.page request).Sublist index.hits :=
  (List.take_sublist _ _).trans List.filter_sublist

theorem increasing_page : order.Increasing (index.page request) :=
  index.increasing.sublist index.page_sublist

theorem isBehind_of_mem_page {hit : Hit} (h : hit ∈ index.page request) :
    order.isBehind request.after hit = true :=
  (List.mem_filter.1 (List.mem_of_mem_take h)).2

/-- **A page leaves nothing out**: a document behind the cursor is on the page, or behind all of the
page. -/
theorem mem_page_or {hit : Hit} (hmem : hit ∈ index.hits)
    (hbehind : order.isBehind request.after hit = true) :
    hit ∈ index.page request ∨ ∀ found ∈ index.page request, order.precedes found.sort hit.sort := by
  have hall := index.increasing.sublist
    (List.filter_sublist (p := order.isBehind request.after))
  have hin := List.mem_filter.2 ⟨hmem, hbehind⟩
  rw [page]
  rw [← List.take_append_drop request.size (index.hits.filter _)] at hall hin
  rcases List.mem_append.1 hin with hin | hin
  · exact .inl hin
  · exact .inr fun found hfound ↦ (List.pairwise_append.1 hall).2.2 found hfound hit hin

/-- A page without documents says that there are none behind the cursor. -/
theorem isBehind_of_page_eq_nil (h : index.page request = []) (hsize : 1 ≤ request.size) :
    ∀ hit ∈ index.hits, order.isBehind request.after hit = false := by
  intro hit hmem
  rw [page, List.take_eq_nil_iff] at h
  simpa using List.filter_eq_nil_iff.1 (h.resolve_left (by omega)) hit hmem

/-- Behind the last of the first documents come the next ones. -/
theorem page_eq_take {before rest : List Hit} (h : index.hits = before ++ rest)
    (hafter : request.after = before.getLast?.map Hit.sort) :
    index.page request = rest.take request.size := by
  have hincreasing := index.increasing
  rw [h] at hincreasing
  obtain ⟨hbefore, -, hrest⟩ := List.pairwise_append.1 hincreasing
  rw [page, h, hafter, List.filter_append]
  have hnone : before.filter (order.isBehind (before.getLast?.map Hit.sort)) = [] := by
    rw [List.filter_eq_nil_iff]
    intro hit hmem hbehind
    exact order.irrefl _ ((KeyOrder.isBehind_getLast?_iff hbefore hit).1 hbehind hit hmem)
  have hall : rest.filter (order.isBehind (before.getLast?.map Hit.sort)) = rest := by
    rw [List.filter_eq_self]
    intro hit hmem
    exact (KeyOrder.isBehind_getLast?_iff hbefore hit).2 fun found hfound ↦
      hrest found hfound hit hmem
  rw [hnone, hall, List.nil_append]

end Index

/-! ## An index that changes -/

/-- What a request finds: an index, and perhaps a failure that may pass in place of an answer. -/
structure Moment (order : KeyOrder) where
  index : Index order
  took : Nat
  timedOut : Bool
  failure : Option ClientError
  passing : ∀ error ∈ failure, error.isTransient = true

namespace Moment

variable {order : KeyOrder} (moment : Moment order) (request : SearchRequest)

/-- The page that answers a request. -/
def page : SearchResponse := ⟨moment.took, moment.timedOut, moment.index.page request⟩

/-- The answer to a request. -/
def answer : Answer :=
  match moment.failure with
  | some error => .error error
  | none => .ok (moment.page request)

end Moment

/-- A backend that answers every request from the index as it is then.  Its state is the number of
requests so far. -/
def Backend.changing {order : KeyOrder} (moments : Nat → Moment order) : Backend Nat where
  search request time := ((moments time).answer request, time + 1)

end LogSearch
