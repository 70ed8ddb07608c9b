import LogSearch.Proofs.Json.Unambiguous
import LogSearch.Proofs.Query.Meaning

/-!
# What is sent tells the query

The text in which a query is sent is a JSON document, and no other query is sent in the same text.
The text determines the document, as all its numbers are whole.  The document determines the query:
its one field names the kind, the conditions on a value are told apart by what stands behind the name
of the field, and an empty clause, which is left out, is the only one that is missing.

## What is here

* `toJson_whole` — documents of queries have no fractions;
* `clauseFields_inj` — clauses, there or left out, can be told from the fields;
* `toJson_inj` — documents determine queries;
* `wire_determines` — texts are documents and determine queries.
-/

set_option autoImplicit false
namespace LogSearch.Query

open Json (Whole)

/-! ## Documents of queries -/

theorem toJsonAll_eq (qs : List Query) : toJsonAll qs = qs.map toJson := by
  induction qs with
  | nil => rfl
  | cons q qs ih => rw [toJsonAll, ih, List.map_cons]

theorem whole_single {name : String} {value : Json} (h : value.Whole) : (single name value).Whole :=
  .object (List.forall_mem_singleton.2 h)

theorem whole_clause {name : String} {items : List Json} (h : ∀ item ∈ items, item.Whole) :
    ∀ field ∈ clause name items, field.2.Whole := by
  rw [clause]
  split
  · exact List.forall_mem_nil _
  · exact List.forall_mem_singleton.2 (.array h)

/-- The documents of queries have no fractions. -/
theorem toJson_whole (q : Query) : q.toJson.Whole := by
  induction q using Query.inductionOn with
  | present field => exact whole_single (whole_single (.string field))
  | matchText field text => exact whole_single (whole_single (.string text))
  | matchQuery field text | matchPhrasePrefix field text | term field text =>
    exact whole_single (whole_single (whole_single (.string text)))
  | range field bounds =>
    refine whole_single (whole_single (.object ?_))
    rw [List.forall_mem_map]
    exact fun bound _ ↦ .string bound.2
  | nested path q ih =>
    refine whole_single (.object ?_)
    simp only [List.forall_mem_cons]
    exact ⟨.string path, ih, .string "none", List.forall_mem_nil _⟩
  | bool must filter should mustNot minimum ihMust ihFilter ihShould ihMustNot =>
    have hitems : ∀ qs : List Query, (∀ q ∈ qs, q.toJson.Whole) →
        ∀ item ∈ toJsonAll qs, item.Whole := by
      intro qs ih
      rwa [toJsonAll_eq, List.forall_mem_map]
    have hminimum : ∀ field ∈ minimum.toList.map fun n ↦ ("minimum_should_match", Json.ofNat n),
        field.2.Whole := by
      rw [List.forall_mem_map]
      exact fun n _ ↦ .int n
    refine whole_single (.object ?_)
    simp only [List.forall_mem_append]
    exact ⟨⟨⟨⟨whole_clause (hitems must ihMust), whole_clause (hitems filter ihFilter)⟩,
      whole_clause (hitems should ihShould)⟩, whole_clause (hitems mustNot ihMustNot)⟩, hminimum⟩

/-! ## Fields that determine a query -/

theorem single_inj {name other : String} {value written : Json}
    (h : single name value = single other written) : name = other ∧ value = written := by
  simpa [single] using h

theorem Comparison.name_inj {op other : Comparison} (h : op.name = other.name) : op = other := by
  cases op <;> cases other <;> first | rfl | exact absurd h (by decide)

theorem clause_inj {name : String} {items others : List Json}
    (h : clause name items = clause name others) : items = others := by
  cases items <;> cases others <;> simp_all [clause]

/-- The minimum as a field, unless there is none. -/
def minimumField (minimum : Option Nat) : List (String × Json) :=
  minimum.toList.map fun n ↦ ("minimum_should_match", .ofNat n)

theorem minimumField_inj {minimum other : Option Nat} (h : minimumField minimum = minimumField other) :
    minimum = other := by
  cases minimum with
  | none => cases other <;> simp_all [minimumField]
  | some n =>
    cases other with
    | none => simp [minimumField] at h
    | some k => simpa [minimumField, Json.ofNat, Int.ofNat_inj] using h

theorem filter_clause (key name : String) (items : List Json) :
    (clause name items).filter (·.1 == key) = if name = key then clause name items else [] := by
  rw [clause]
  split <;> simp [List.filter_cons]

theorem filter_minimumField (key : String) (minimum : Option Nat) :
    (minimumField minimum).filter (·.1 == key)
      = if "minimum_should_match" = key then minimumField minimum else [] := by
  cases minimum <;> simp [minimumField, List.filter_cons]

/-- The fields of a query of clauses. -/
def clauseFields (must filter should mustNot : List Json) (minimum : Option Nat) :
    List (String × Json) :=
  clause "must" must ++ clause "filter" filter ++ clause "should" should ++
    clause "must_not" mustNot ++ minimumField minimum

/-- Every clause can be read off the fields by its name, a missing one as empty. -/
theorem clauseFields_inj {must filter should mustNot must' filter' should' mustNot' : List Json}
    {minimum minimum' : Option Nat}
    (h : clauseFields must filter should mustNot minimum
      = clauseFields must' filter' should' mustNot' minimum') :
    must = must' ∧ filter = filter' ∧ should = should' ∧ mustNot = mustNot' ∧ minimum = minimum' := by
  have hnamed (key : String) := congrArg (List.filter (·.1 == key)) h
  simp only [clauseFields, List.filter_append, filter_clause, filter_minimumField] at hnamed
  have hmust := hnamed "must"
  have hfilter := hnamed "filter"
  have hshould := hnamed "should"
  have hmustNot := hnamed "must_not"
  have hminimum := hnamed "minimum_should_match"
  simp only [String.reduceEq, if_true, if_false, List.nil_append, List.append_nil]
    at hmust hfilter hshould hmustNot hminimum
  exact ⟨clause_inj hmust, clause_inj hfilter, clause_inj hshould, clause_inj hmustNot,
    minimumField_inj hminimum⟩

theorem toJsonAll_inj {qs rs : List Query} (ih : ∀ q ∈ qs, ∀ {r}, toJson q = toJson r → q = r)
    (h : toJsonAll qs = toJsonAll rs) : qs = rs := by
  induction qs generalizing rs with
  | nil =>
    cases rs with
    | nil => rfl
    | cons r rs => cases h
  | cons q qs ihqs =>
    cases rs with
    | nil => cases h
    | cons r rs =>
      obtain ⟨hhead, htail⟩ := List.cons.inj h
      obtain ⟨hq, hqs⟩ := List.forall_mem_cons.1 ih
      rw [hq hhead, ihqs hqs htail]

/-- Bounds are named and kept in their order. -/
theorem bounds_inj {bounds others : List (Comparison × String)}
    (h : (bounds.map fun (op, value) ↦ (op.name, Json.string value))
      = others.map fun (op, value) ↦ (op.name, Json.string value)) : bounds = others := by
  refine (List.map_inj_right ?_).1 h
  rintro ⟨op, value⟩ ⟨op', value'⟩ hbound
  obtain ⟨hop, hvalue⟩ := Prod.mk.inj hbound
  rw [Comparison.name_inj hop, Json.string.inj hvalue]

/-- **The document of a query determines it.** -/
theorem toJson_inj {p q : Query} (h : p.toJson = q.toJson) : p = q := by
  induction p using Query.inductionOn generalizing q with
  | present field =>
    cases q with
    | present other =>
      obtain ⟨-, hfield⟩ := single_inj (single_inj h).2
      rw [Json.string.inj hfield]
    | _ => exact absurd (single_inj h).1 (by decide)
  | matchText field text =>
    cases q with
    | matchText other written =>
      obtain ⟨rfl, htext⟩ := single_inj (single_inj h).2
      rw [Json.string.inj htext]
    | matchQuery => cases (single_inj (single_inj h).2).2
    | _ => exact absurd (single_inj h).1 (by decide)
  | matchQuery field text =>
    cases q with
    | matchQuery other written =>
      obtain ⟨rfl, hbody⟩ := single_inj (single_inj h).2
      rw [Json.string.inj (single_inj hbody).2]
    | matchText => cases (single_inj (single_inj h).2).2
    | _ => exact absurd (single_inj h).1 (by decide)
  | matchPhrasePrefix field text =>
    cases q with
    | matchPhrasePrefix other written =>
      obtain ⟨rfl, hbody⟩ := single_inj (single_inj h).2
      rw [Json.string.inj (single_inj hbody).2]
    | _ => exact absurd (single_inj h).1 (by decide)
  | term field value =>
    cases q with
    | term other written =>
      obtain ⟨rfl, hbody⟩ := single_inj (single_inj h).2
      rw [Json.string.inj (single_inj hbody).2]
    | _ => exact absurd (single_inj h).1 (by decide)
  | range field bounds =>
    cases q with
    | range other others =>
      obtain ⟨rfl, hbounds⟩ := single_inj (single_inj h).2
      rw [bounds_inj (Json.object.inj hbounds)]
    | _ => exact absurd (single_inj h).1 (by decide)
  | nested path q ih =>
    cases q with
    | nested other r =>
      have hfields := Json.object.inj (single_inj h).2
      simp only [List.cons.injEq, Prod.mk.injEq, Json.string.injEq, true_and, and_true] at hfields
      obtain ⟨rfl, hquery⟩ := hfields
      rw [ih hquery]
    | _ => exact absurd (single_inj h).1 (by decide)
  | bool must filter should mustNot minimum ihMust ihFilter ihShould ihMustNot =>
    cases q with
    | bool must' filter' should' mustNot' minimum' =>
      obtain ⟨hmust, hfilter, hshould, hmustNot, rfl⟩ :=
        clauseFields_inj (Json.object.inj (single_inj h).2)
      rw [toJsonAll_inj ihMust hmust, toJsonAll_inj ihFilter hfilter,
        toJsonAll_inj ihShould hshould, toJsonAll_inj ihMustNot hmustNot]
    | _ => exact absurd (single_inj h).1 (by decide)

/-! ## Texts -/

/-- **What is sent is one JSON value, and it determines the query.** -/
theorem wire_determines :
    (∀ q : Query, Json.IsValue q.wire.toList) ∧ ∀ p q : Query, p.wire = q.wire → p = q := by
  refine ⟨fun q ↦ ?_, fun p q h ↦ toJson_inj ?_⟩
  · rw [wire, Json.compact, String.toList_ofList]
    exact Json.isValue_write q.toJson_whole
  · exact p.toJson_whole.compact_inj q.toJson_whole h

end LogSearch.Query
