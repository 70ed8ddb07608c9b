import LogSearch.Json.Basic
import Mathlib.Algebra.Group.Int.Defs
import Mathlib.Data.String.Basic

/-!
# Values as they are stored

A value that is held in memory has the fields of its objects sorted by name, each name once, and integers
of 64 bits.  `canonical` puts fields into that order one after the other, so that of equal names the last
stays, and leaves a value that is stored as it is.

## What is here

* `depth` — how deep arrays and objects are nested;
* `InOrder`, `sortFields_spec`, `sortFields_eq_self` — sorted fields, and that sorting makes them;
* `Stored`, `Stored.canonical_eq` — values in memory, and that there is nothing to do to them;
* `Exact` — values whose numbers are the same when they are written and read.
-/

set_option autoImplicit false

namespace LogSearch.Json

/-! ## Depth -/

mutual

/-- How deep arrays and objects are nested in a document. -/
def depth : Json → Nat
  | .array items => depthItems items + 1
  | .object fields => depthFields fields + 1
  | _ => 0

/-- The depth of the deepest item. -/
def depthItems : List Json → Nat
  | [] => 0
  | item :: items => max item.depth (depthItems items)

/-- The depth of the deepest value of a field. -/
def depthFields : List (String × Json) → Nat
  | [] => 0
  | (_, value) :: fields => max value.depth (depthFields fields)

end

@[simp] theorem depth_bool (value : Bool) : (Json.bool value).depth = 0 := rfl

@[simp] theorem depth_number (value : Number) : (Json.number value).depth = 0 := rfl

@[simp] theorem depth_string (s : String) : (Json.string s).depth = 0 := rfl

theorem depth_array_le {items : List Json} {n : Nat} :
    (Json.array items).depth ≤ n + 1 ↔ ∀ item ∈ items, item.depth ≤ n := by
  rw [depth, Nat.add_le_add_iff_right]
  induction items with
  | nil => simp [depthItems]
  | cons item items ih => rw [depthItems, Nat.max_le, ih, List.forall_mem_cons]

theorem depth_object_le {fields : List (String × Json)} {n : Nat} :
    (Json.object fields).depth ≤ n + 1 ↔ ∀ field ∈ fields, field.2.depth ≤ n := by
  rw [depth, Nat.add_le_add_iff_right]
  induction fields with
  | nil => simp [depthFields]
  | cons field fields ih => rw [depthFields, Nat.max_le, ih, List.forall_mem_cons]

/-! ## The order of fields -/

/-- The fields are sorted by name, each name once. -/
def InOrder (fields : List (String × Json)) : Prop := fields.Pairwise (·.1 < ·.1)

section fields

variable {name : String} {value : Json} {fields sorted : List (String × Json)}

theorem mem_of_mem_putField {field : String × Json} (h : field ∈ putField name value fields) :
    field = (name, value) ∨ field ∈ fields := by
  induction fields with
  | nil => exact .inl (List.mem_singleton.1 h)
  | cons next fields ih =>
    rw [putField] at h
    split at h
    · exact List.mem_cons.1 h
    · split at h
      · rcases List.mem_cons.1 h with heq | hmem
        · exact .inl heq
        · exact .inr (List.mem_cons_of_mem _ hmem)
      · rcases List.mem_cons.1 h with rfl | hmem
        · exact .inr List.mem_cons_self
        · exact (ih hmem).imp_right (List.mem_cons_of_mem _)

theorem InOrder.putField (h : InOrder fields) : InOrder (putField name value fields) := by
  induction fields with
  | nil => exact List.pairwise_singleton _ _
  | cons next fields ih =>
    obtain ⟨hnext, hfields⟩ := List.pairwise_cons.1 h
    rw [Json.putField]
    split
    · next hlt =>
      refine List.pairwise_cons.2 ⟨List.forall_mem_cons.2 ⟨hlt, fun field hfield ↦ ?_⟩, h⟩
      exact hlt.trans (hnext field hfield)
    · next hge =>
      split
      · next heq => exact List.pairwise_cons.2 ⟨by simpa [heq] using hnext, hfields⟩
      · next hne =>
        refine List.pairwise_cons.2 ⟨fun field hfield ↦ ?_, ih hfields⟩
        rcases mem_of_mem_putField hfield with rfl | hmem
        · exact lt_of_le_of_ne (not_lt.1 hge) (Ne.symm hne)
        · exact hnext field hmem

/-- A field with a name behind all others is put at the end. -/
theorem putField_eq_append (h : ∀ field ∈ fields, field.1 < name) :
    putField name value fields = fields ++ [(name, value)] := by
  induction fields with
  | nil => rfl
  | cons next fields ih =>
    obtain ⟨hnext, hfields⟩ := List.forall_mem_cons.1 h
    rw [putField, if_neg (not_lt_of_gt hnext), if_neg hnext.ne', ih hfields, List.cons_append]

theorem foldl_putField_spec (h : InOrder sorted) :
    InOrder (fields.foldl (fun sorted field ↦ putField field.1 field.2 sorted) sorted) ∧
    ∀ field ∈ fields.foldl (fun sorted field ↦ putField field.1 field.2 sorted) sorted,
      field ∈ sorted ∨ field ∈ fields := by
  induction fields generalizing sorted with
  | nil => exact ⟨h, fun field hfield ↦ .inl hfield⟩
  | cons next fields ih =>
    have hput : InOrder (putField next.1 next.2 sorted) := h.putField
    obtain ⟨horder, hmem⟩ := ih hput
    refine ⟨horder, fun field hfield ↦ ?_⟩
    rcases hmem field hfield with hfirst | hmem
    · rcases mem_of_mem_putField hfirst with rfl | hsorted
      · exact .inr List.mem_cons_self
      · exact .inl hsorted
    · exact .inr (List.mem_cons_of_mem _ hmem)

/-- Sorted fields are in order, and they are some of the fields. -/
theorem sortFields_spec (fields : List (String × Json)) :
    InOrder (sortFields fields) ∧ ∀ field ∈ sortFields fields, field ∈ fields := by
  obtain ⟨horder, hmem⟩ := @foldl_putField_spec fields [] List.Pairwise.nil
  exact ⟨horder, fun field hfield ↦ (hmem field hfield).resolve_left List.not_mem_nil⟩

theorem foldl_putField_eq_append (h : InOrder (sorted ++ fields)) :
    fields.foldl (fun sorted field ↦ putField field.1 field.2 sorted) sorted = sorted ++ fields := by
  induction fields generalizing sorted with
  | nil => simp
  | cons next fields ih =>
    have hbefore : ∀ field ∈ sorted, field.1 < next.1 := fun field hfield ↦
      (List.pairwise_append.1 h).2.2 field hfield next List.mem_cons_self
    rw [List.foldl_cons, putField_eq_append hbefore, ih (by simpa using h), List.append_assoc,
      List.singleton_append]

/-- Fields in order stay as they are. -/
theorem sortFields_eq_self (h : InOrder fields) : sortFields fields = fields :=
  foldl_putField_eq_append h

end fields

/-! ## Values in memory -/

/-- An integer has 64 bits, with or without a sign. -/
def Number.Fits : Number → Prop
  | .int n => -2 ^ 63 ≤ n ∧ n < 2 ^ 64
  | .float _ => True

/-- A value as it is stored. -/
inductive Stored : Json → Prop
  | null : Stored .null
  | bool (value : Bool) : Stored (.bool value)
  | number {value : Number} (h : value.Fits) : Stored (.number value)
  | string (s : String) : Stored (.string s)
  | array {items : List Json} (h : ∀ item ∈ items, Stored item) : Stored (.array items)
  | object {fields : List (String × Json)} (horder : InOrder fields)
    (h : ∀ field ∈ fields, Stored field.2) : Stored (.object fields)

theorem canonicalItems_eq (items : List Json) : canonicalItems items = items.map canonical := by
  induction items with
  | nil => rfl
  | cons item items ih => rw [canonicalItems, ih, List.map_cons]

theorem canonicalFields_eq (fields : List (String × Json)) :
    canonicalFields fields = fields.map fun field ↦ (field.1, field.2.canonical) := by
  induction fields with
  | nil => rfl
  | cons field fields ih => rw [canonicalFields, ih, List.map_cons]

/-- Nothing is to be done to a value that is stored. -/
theorem Stored.canonical_eq {value : Json} (h : value.Stored) : value.canonical = value := by
  induction h with
  | array _ ih => rw [canonical, canonicalItems_eq, List.map_congr_left ih, List.map_id']
  | object horder _ ih =>
    rw [canonical, canonicalFields_eq, List.map_congr_left fun field hfield ↦
      (congrArg (Prod.mk field.1) (ih field hfield) : _ = field), List.map_id',
      sortFields_eq_self horder]
  | _ => rw [canonical] <;> simp

section canonical

variable {items : List Json} {fields : List (String × Json)} {n : Nat}

theorem stored_canonical_array (h : ∀ item ∈ items, item.canonical.Stored) :
    (Json.array items).canonical.Stored := by
  rw [canonical, canonicalItems_eq]
  exact .array (List.forall_mem_map.2 h)

theorem depth_canonical_array_le (h : ∀ item ∈ items, item.canonical.depth ≤ n) :
    (Json.array items).canonical.depth ≤ n + 1 := by
  rw [canonical, canonicalItems_eq, depth_array_le]
  exact List.forall_mem_map.2 h

/-- What holds of the canonical values of all fields holds of those that stay. -/
theorem forall_mem_sortFields {P : Json → Prop} (h : ∀ field ∈ fields, P field.2.canonical) :
    ∀ field ∈ sortFields (canonicalFields fields), P field.2 := by
  have hall : ∀ field ∈ canonicalFields fields, P field.2 := by
    rw [canonicalFields_eq]
    exact List.forall_mem_map.2 h
  exact fun field hfield ↦ hall field ((sortFields_spec _).2 field hfield)

theorem stored_canonical_object (h : ∀ field ∈ fields, field.2.canonical.Stored) :
    (Json.object fields).canonical.Stored :=
  .object (sortFields_spec _).1 (forall_mem_sortFields h)

theorem depth_canonical_object_le (h : ∀ field ∈ fields, field.2.canonical.depth ≤ n) :
    (Json.object fields).canonical.depth ≤ n + 1 :=
  depth_object_le.2 (forall_mem_sortFields (P := fun value ↦ value.depth ≤ n) h)

end canonical

/-! ## Exact values -/

/-- The number is an integer, or the zero with a sign, which is no integer here. -/
def Number.Exact : Number → Prop
  | .int _ => True
  | .float bits => bits = 0x8000000000000000

/-- All numbers of the value are exact. -/
inductive Exact : Json → Prop
  | null : Exact .null
  | bool (value : Bool) : Exact (.bool value)
  | number {value : Number} (h : value.Exact) : Exact (.number value)
  | string (s : String) : Exact (.string s)
  | array {items : List Json} (h : ∀ item ∈ items, Exact item) : Exact (.array items)
  | object {fields : List (String × Json)} (h : ∀ field ∈ fields, Exact field.2) :
    Exact (.object fields)

end LogSearch.Json
