import LogSearch.Proofs.Json.Records
import LogSearch.Proofs.Json.Results
import LogSearch.Search.Response

/-!
# Pages read back

A page of hits that is written can be read again, and is the page it was: its fields are all there, once
each and in their order, and none of its values is nested deeper than a reader follows.  A page that has
been read from some other text, whatever that text left out or had too much of, is such a page too, for its
values are stored by then.  The sort values of a hit come back this way in the next request, so nothing may
be lost on the way.

## What is here

* `Hit.readsBack`, `SearchResponse.readsBack` — what is written;
* `Hit.Fits`, `SearchResponse.record_yields` — what a page is like that has been read;
* `SearchResponse.decode_trip` — both together.
-/

set_option autoImplicit false

namespace LogSearch

open Json (Stored Exact ReadsBack Opens Gathers Yields Slot readsBack_readField readsBack_readText)

/-! ## What is written -/

section written

variable {value : Json} {nesting : Nat}

theorem Json.readsBack_readStored (hstored : value.Stored) (hexact : value.Exact)
    (hdepth : value.depth < nesting) : ReadsBack (Json.readStored nesting) value.write value := by
  intro rest hrest
  have hread := Json.readsBack_readValue hstored hexact hdepth rest hrest
  simp only [Json.readStored, hread, Except.map, hstored.canonical_eq]

/-- The values of a hit that are not texts. -/
def Hit.values (hit : Hit) : List Json := hit.source :: hit.sort

theorem Hit.opens_write (hit : Hit) : Opens hit.toJson.write := ⟨'{', _, rfl, rfl, by decide⟩

/-- **A hit is read back.** -/
theorem Hit.readsBack {hit : Hit} (hvalues : ∀ value ∈ hit.values, value.Stored ∧ value.Exact)
    (hdepth : hit.toJson.depth ≤ nesting + 2) :
    ReadsBack (Hit.record.read (nesting + 3)) hit.toJson.write hit := by
  obtain ⟨hsource, hsort⟩ := List.forall_mem_cons.1 hvalues
  have hdepths := Json.depth_object_le.1 hdepth
  have hsourceDepth : hit.source.depth ≤ nesting + 1 := hdepths ("_source", hit.source) (by simp)
  have hsortDepth := Json.depth_array_le.1 (hdepths ("sort", .array hit.sort) (by simp))
  have hlist : ReadsBack (Json.readList (nesting + 2) Json.readStored) (Json.array hit.sort).write
      hit.sort := by
    rw [Json.write, Json.writeItems_eq]
    exact Json.readsBack_readList (fun v hv ↦ (hsort v hv).2.opens) fun v hv ↦
      Json.readsBack_readStored (hsort v hv).1 (hsort v hv).2 (Nat.lt_succ_of_le (hsortDepth v hv))
  rw [Hit.toJson, Json.write_object]
  refine Json.readsBack_read (.cons (readsBack_readField rfl rfl (readsBack_readText hit.index)) <|
    .cons (readsBack_readField rfl rfl (readsBack_readText hit.id)) <|
    .cons (readsBack_readField rfl rfl (Json.readsBack_readStored hsource.1 hsource.2
      (Nat.lt_succ_of_le hsourceDepth))) <|
    .cons (readsBack_readField rfl rfl hlist) (.nil _)) rfl

theorem SearchResponse.depth_toJson_le {page : SearchResponse} :
    page.toJson.depth ≤ nesting + 3 ↔ ∀ hit ∈ page.hits, hit.toJson.depth ≤ nesting := by
  simp [SearchResponse.toJson, Json.depth_object_le, Json.depth_array_le, Json.ofNat]

/-- **A page is read back.** -/
theorem SearchResponse.readsBack {page : SearchResponse} (htook : page.took < 2 ^ 64)
    (hvalues : ∀ hit ∈ page.hits, ∀ value ∈ hit.values, value.Stored ∧ value.Exact)
    (hdepth : page.toJson.depth ≤ nesting + 5) :
    ReadsBack (SearchResponse.record.read (nesting + 6)) page.toJson.write page := by
  have hdepths := SearchResponse.depth_toJson_le.1 hdepth
  have hlist : ReadsBack (Json.readList (nesting + 4) Hit.record.read)
      (Json.array (page.hits.map Hit.toJson)).write page.hits := by
    rw [Json.write, Json.writeItems_eq, List.map_map]
    exact Json.readsBack_readList (fun hit _ ↦ hit.opens_write) fun hit hhit ↦
      Hit.readsBack (hvalues hit hhit) (hdepths hit hhit)
  have hhits : ReadsBack (Hit.listRecord.read (nesting + 5))
      (Json.object [("hits", .array (page.hits.map Hit.toJson))]).write page.hits := by
    rw [Json.write_object]
    exact Json.readsBack_read (.cons (readsBack_readField rfl rfl hlist) (.nil _)) rfl
  have htook : ReadsBack (Json.readNatural (Nat.pow 2 64 - 1) "u64") (Json.ofNat page.took).write
      page.took :=
    Json.readsBack_readNatural (by decide) (Nat.le_sub_one_of_lt htook)
  rw [SearchResponse.toJson, Json.write_object]
  exact Json.readsBack_read (.cons (readsBack_readField rfl rfl htook) <|
    .cons (readsBack_readField rfl rfl (Json.readsBack_readFlag page.timedOut)) <|
    .cons (readsBack_readField rfl rfl hhits) (.nil _)) rfl

end written

/-! ## What is read -/

section read

variable {nesting : Nat}

theorem Json.readStored_yields (nesting : Nat) :
    Yields (fun value ↦ value.Stored ∧ value.depth ≤ nesting) (Json.readStored (nesting + 1)) :=
  fun cs ↦ (Json.readValue_yields nesting cs).map fun _ hfound ↦ hfound

theorem Json.yields_true {α : Type} (reader : Json.Reader α) : Yields (fun _ ↦ True) reader :=
  fun cs ↦ Json.gives_true (reader cs)

/-- The values of a hit are stored, and may stand in a document that is nested so deep. -/
def Hit.Fits (nesting : Nat) (hit : Hit) : Prop :=
  (∀ value ∈ hit.values, value.Stored) ∧ hit.toJson.depth ≤ nesting + 2

theorem Hit.record_yields (nesting : Nat) : Yields (Hit.Fits nesting) (Hit.record.read (nesting + 3)) := by
  let Fits (parts : Hit.Parts) : Prop :=
    ((parts.source.getD .null).Stored ∧ (parts.source.getD .null).depth ≤ nesting + 1) ∧
    ∀ value ∈ parts.sort.getD [], value.Stored ∧ value.depth ≤ nesting
  have hempty : Fits Hit.record.empty := ⟨⟨.null, Nat.zero_le _⟩, List.forall_mem_nil _⟩
  have hslots : ∀ slot ∈ Hit.record.slots, slot.Keeps Fits (nesting + 2) := by
    simp only [Hit.record, List.forall_mem_cons]
    refine ⟨?_, ?_, ?_, ?_, List.forall_mem_nil _⟩
    · exact Json.keeps_slot _ (Json.yields_true _) fun _ _ _ h ↦ h
    · exact Json.keeps_slot _ (Json.yields_true _) fun _ _ _ h ↦ h
    · exact Json.keeps_slot _ (Json.readStored_yields (nesting + 1)) fun _ _ hvalue h ↦ ⟨hvalue, h.2⟩
    · exact Json.keeps_slot _ (Json.readList_yields (Json.readStored_yields nesting))
        fun _ _ hvalues h ↦ ⟨h.1, hvalues⟩
  refine Json.read_yields hempty hslots ?_
  rintro parts hit ⟨⟨hsource, hdepth⟩, hsort⟩ hfinish
  obtain rfl := Except.ok.inj hfinish
  refine ⟨List.forall_mem_cons.2 ⟨hsource, fun v hv ↦ (hsort v hv).1⟩, ?_⟩
  have hlist := Json.depth_array_le.2 fun v hv ↦ (hsort v hv).2
  simp [Hit.toJson, Json.depth_object_le, hdepth, hlist]

theorem Hit.listRecord_yields (nesting : Nat) : Yields (fun hits ↦ ∀ hit ∈ hits, hit.Fits nesting)
    (Hit.listRecord.read (nesting + 5)) := by
  let Fits (parts : Option (List Hit)) : Prop := ∀ hit ∈ parts.getD [], hit.Fits nesting
  have hslots : ∀ slot ∈ Hit.listRecord.slots, slot.Keeps Fits (nesting + 4) := by
    simp only [Hit.listRecord, List.forall_mem_cons]
    refine ⟨?_, List.forall_mem_nil _⟩
    exact Json.keeps_slot _ (Json.readList_yields (Hit.record_yields nesting)) fun _ _ hhits _ ↦ hhits
  refine Json.read_yields (List.forall_mem_nil _ : Fits none) hslots ?_
  rintro parts hits h hfinish
  obtain rfl := Except.ok.inj hfinish
  exact h

/-- **A page that has been read** holds values as they are stored, and its document is not nested too
deep. -/
theorem SearchResponse.record_yields (nesting : Nat) :
    Yields (fun page ↦ page.took < 2 ^ 64 ∧ ∀ hit ∈ page.hits, hit.Fits nesting)
      (SearchResponse.record.read (nesting + 6)) := by
  let Fits (parts : SearchResponse.Parts) : Prop :=
    parts.took.getD 0 < 2 ^ 64 ∧ ∀ hit ∈ parts.hits.getD [], hit.Fits nesting
  have hempty : Fits SearchResponse.record.empty := ⟨by decide, List.forall_mem_nil _⟩
  have hslots : ∀ slot ∈ SearchResponse.record.slots, slot.Keeps Fits (nesting + 5) := by
    simp only [SearchResponse.record, List.forall_mem_cons]
    refine ⟨?_, ?_, ?_, List.forall_mem_nil _⟩
    · refine Json.keeps_slot _ (Json.readNatural_yields _ _) fun n parts hn h ↦ ⟨?_, h.2⟩
      exact Nat.lt_of_le_of_lt hn (by decide)
    · exact Json.keeps_slot _ (Json.yields_true _) fun _ _ _ h ↦ h
    · exact Json.keeps_slot _ (Hit.listRecord_yields nesting) fun _ _ hhits h ↦ ⟨h.1, hhits⟩
  refine Json.read_yields hempty hslots ?_
  rintro parts page ⟨htook, hhits⟩ hfinish
  cases hparts : parts.hits with
  | none => simp [SearchResponse.record, hparts] at hfinish
  | some hits =>
    simp only [SearchResponse.record, hparts, Except.ok.injEq] at hfinish
    obtain rfl := hfinish
    rw [hparts] at hhits
    exact ⟨htook, hhits⟩

end read

/-! ## The round trip -/

/-- A page is decoded from its text. -/
theorem SearchResponse.decode_compact {page : SearchResponse} (htook : page.took < 2 ^ 64)
    (hvalues : ∀ hit ∈ page.hits, ∀ value ∈ hit.values, value.Stored ∧ value.Exact)
    (hdepth : page.toJson.depth ≤ 127) : decode page.toJson.compact = .ok page := by
  rw [decode, Json.compact, String.toList_ofList]
  exact Json.decodeWith_eq (@SearchResponse.readsBack 122 page htook hvalues hdepth)

/-- **Pages survive the trip.**  A page whose values are as they are stored is decoded from its text, as
long as it is not nested too deep; and a page that was decoded from any text at all is decoded from its own
text again.  Fractions are left out: they may come back as other doubles. -/
theorem SearchResponse.decode_trip :
    (∀ page : SearchResponse, page.took < 2 ^ 64 →
      (∀ hit ∈ page.hits, ∀ value ∈ hit.values, value.Stored ∧ value.Exact) →
      page.toJson.depth ≤ 127 → decode page.toJson.compact = .ok page) ∧
    ∀ (body : String) (page : SearchResponse), decode body = .ok page →
      (∀ hit ∈ page.hits, ∀ value ∈ hit.values, value.Exact) →
      decode page.toJson.compact = .ok page := by
  refine ⟨fun page htook hvalues hdepth ↦ decode_compact htook hvalues hdepth, ?_⟩
  intro body page hdecode hexact
  obtain ⟨htook, hhits⟩ := Json.decodeWith_yields (SearchResponse.record_yields 122) hdecode
  refine decode_compact htook (fun hit hhit value hvalue ↦ ?_) ?_
  · exact ⟨(hhits hit hhit).1 value hvalue, hexact hit hhit value hvalue⟩
  · exact SearchResponse.depth_toJson_le.2 fun hit hhit ↦ (hhits hit hhit).2

/-- A body with a field that is skipped, hits as arrays, a name that comes twice, and a zero with a sign;
and the page it holds, with the longest time there is. -/
theorem SearchResponse.decode_trip_sparse :
    let body := "\x7b\"took\": 1, \"shards\": [1.5e3], \"hits\": [[" ++
      "\x7b\"_source\": \x7b\"b\": true, \"a\": -0, \"b\": [2]\x7d\x7d, " ++
      "[\"i\", \"x\", null, [18446744073709551615]]]]\x7d"
    let page : SearchResponse := ⟨1, false,
      [⟨"", "", .object [("a", .number (Json.zero true)), ("b", .array [.ofNat 2])], []⟩,
        ⟨"i", "x", .null, [.ofNat 18446744073709551615]⟩]⟩
    let slow : SearchResponse := ⟨18446744073709551615, true, page.hits⟩
    (∀ hit ∈ page.hits, ∀ value ∈ hit.values, value.Stored ∧ value.Exact) ∧
      slow.toJson.depth ≤ 127 ∧ decode slow.toJson.compact = .ok slow ∧
      decode body = .ok page ∧ decode page.toJson.compact = .ok page := by
  intro body page slow
  have hint (n : Nat) (hn : n < 2 ^ 64) : (Json.ofNat n).Stored ∧ (Json.ofNat n).Exact :=
    ⟨.number ⟨by omega, by omega⟩, .number trivial⟩
  have hobject : (Json.object [("a", .number (Json.zero true)), ("b", .array [.ofNat 2])]).Stored ∧
      (Json.object [("a", .number (Json.zero true)), ("b", .array [.ofNat 2])]).Exact := by
    have htwo := hint 2 (by decide)
    have horder : Json.InOrder [("a", .number (Json.zero true)), ("b", .array [.ofNat 2])] :=
      List.pairwise_pair.2 (by decide +kernel)
    refine ⟨.object horder ?_, .object ?_⟩
    · simp only [List.forall_mem_cons]
      exact ⟨.number trivial, .array (List.forall_mem_singleton.2 htwo.1), List.forall_mem_nil _⟩
    · simp only [List.forall_mem_cons]
      exact ⟨.number rfl, .array (List.forall_mem_singleton.2 htwo.2), List.forall_mem_nil _⟩
  have hvalues : ∀ hit ∈ page.hits, ∀ value ∈ hit.values, value.Stored ∧ value.Exact := by
    simp only [page, Hit.values, List.forall_mem_cons]
    exact ⟨⟨hobject, List.forall_mem_nil _⟩,
      ⟨⟨.null, .null⟩, hint _ (by decide), List.forall_mem_nil _⟩, List.forall_mem_nil _⟩
  have hdepth : slow.toJson.depth ≤ 127 := by decide
  have hbody : decode body = .ok page := by decide +kernel
  obtain ⟨hwritten, hread⟩ := decode_trip
  exact ⟨hvalues, hdepth, hwritten slow (by decide) hvalues hdepth, hbody,
    hread body page hbody fun hit hhit value hvalue ↦ (hvalues hit hhit value hvalue).2⟩

end LogSearch
