import LogSearch.Proofs.Kql.Tree
import LogSearch.Query.OfNode

/-!
# What queries and trees mean

A query says something about an object, and so does the tree it comes from.  What a condition on a
single field says is left open: `Documents` is any assignment of truth values to such conditions,
together with the objects in the fields of an object.

A query names its fields in full.  A tree does not: inside a nested scope, fields are relative to the
field of the scope.  The two meet in `Documents.below`, which reads every field below a path: moving
a query below the path is reading it there (`Query.holds_under`), and so is meeting a tree in a scope
(`Node.holds_below`).

## What is here

* `Documents`, `Query.Holds`, `Values.Holds`, `Node.Holds` — what is true of an object;
* `Query.holds_allOf`, `Query.holds_anyOf`, `Query.holds_negate` — the clauses that trees need;
* `Query.holds_under`, `Node.holds_below` — fields below a path;
* `Query.holds_ofNode_iff` — the query of a tree says what the tree says.
-/

set_option autoImplicit false
namespace LogSearch

universe u

/-! ## Documents -/

/-- What a query asks of a single field. -/
inductive Query.Condition
  | present
  | matchText (text : String)
  | matchQuery (text : String)
  | matchPhrasePrefix (text : String)
  | term (value : String)
  | range (bounds : List (Comparison × String))

/-- Objects, with the conditions that their fields meet and the objects in their fields.  Names of
fields are absolute. -/
structure Documents (Obj : Type u) where
  leaf : Obj → String → Query.Condition → Prop
  children : Obj → String → List Obj

/-- The documents with all fields read below a path. -/
def Documents.below {Obj : Type u} (docs : Documents Obj) (path : String) : Documents Obj where
  leaf o field := docs.leaf o (path ++ "." ++ field)
  children o field := docs.children o (path ++ "." ++ field)

open Classical in
/-- The number of propositions that hold. -/
noncomputable def holding (ps : List Prop) : Nat := ps.countP fun p ↦ decide p

theorem one_le_holding_iff {ps : List Prop} : 1 ≤ holding ps ↔ ∃ p ∈ ps, p := by
  rw [holding, Nat.succ_le_iff, List.countP_pos_iff]
  simp

theorem exists_mem_map {α β : Type} {f : α → β} {P : β → Prop} {as : List α} :
    (∃ b ∈ as.map f, P b) ↔ ∃ a ∈ as, P (f a) := by
  constructor
  · rintro ⟨_, hb, h⟩
    obtain ⟨a, ha, rfl⟩ := List.mem_map.1 hb
    exact ⟨a, ha, h⟩
  · rintro ⟨a, ha, h⟩
    exact ⟨f a, List.mem_map_of_mem ha, h⟩

section meaning

variable {Obj : Type u}

/-! ## Queries -/

mutual

/-- Whether a query holds at an object. -/
def Query.Holds (docs : Documents Obj) : Query → Obj → Prop
  | .present field, o => docs.leaf o field .present
  | .matchText field text, o => docs.leaf o field (.matchText text)
  | .matchQuery field text, o => docs.leaf o field (.matchQuery text)
  | .matchPhrasePrefix field text, o => docs.leaf o field (.matchPhrasePrefix text)
  | .term field value, o => docs.leaf o field (.term value)
  | .range field bounds, o => docs.leaf o field (.range bounds)
  | .nested path query, o => ∃ child ∈ docs.children o path, query.Holds docs child
  | .bool must filter should mustNot minimum, o =>
    (∀ p ∈ Query.meanings docs must o, p) ∧ (∀ p ∈ Query.meanings docs filter o, p) ∧
      (∀ p ∈ Query.meanings docs mustNot o, ¬ p) ∧
      ∀ n ∈ minimum, n ≤ holding (Query.meanings docs should o)

/-- What each of several queries says of an object. -/
def Query.meanings (docs : Documents Obj) : List Query → Obj → List Prop
  | [], _ => []
  | q :: qs, o => q.Holds docs o :: Query.meanings docs qs o

end

variable {docs : Documents Obj} {o : Obj}

theorem Query.meanings_eq (qs : List Query) : meanings docs qs o = qs.map (Holds docs · o) := by
  induction qs with
  | nil => rfl
  | cons q qs ih => rw [meanings, ih, List.map_cons]

theorem Query.holds_allOf {qs : List Query} :
    (allOf qs).Holds docs o ↔ ∀ q ∈ qs, q.Holds docs o := by
  rw [allOf, Holds, meanings_eq qs, List.forall_mem_map]
  simp [meanings]

theorem Query.holds_anyOf {qs : List Query} :
    (anyOf qs).Holds docs o ↔ ∃ q ∈ qs, q.Holds docs o := by
  rw [anyOf, Holds, meanings_eq qs]
  simp only [meanings, Option.mem_some_iff, forall_eq', one_le_holding_iff, exists_mem_map]
  simp

theorem Query.holds_negate {q : Query} : q.negate.Holds docs o ↔ ¬ q.Holds docs o := by
  rw [negate, Holds]
  constructor
  · rintro ⟨-, -, h, -⟩
    exact h _ List.mem_cons_self
  · intro h
    refine ⟨by simp [meanings], by simp [meanings], ?_, by simp⟩
    simpa only [meanings, List.forall_mem_singleton] using h

/-- Induction over queries, with the hypothesis for every clause. -/
@[elab_as_elim]
theorem Query.inductionOn {motive : Query → Prop}
    (present : ∀ field, motive (.present field))
    (matchText : ∀ field text, motive (.matchText field text))
    (matchQuery : ∀ field text, motive (.matchQuery field text))
    (matchPhrasePrefix : ∀ field text, motive (.matchPhrasePrefix field text))
    (term : ∀ field value, motive (.term field value))
    (range : ∀ field bounds, motive (.range field bounds))
    (nested : ∀ path q, motive q → motive (.nested path q))
    (bool : ∀ must filter should mustNot minimum, (∀ q ∈ must, motive q) →
      (∀ q ∈ filter, motive q) → (∀ q ∈ should, motive q) → (∀ q ∈ mustNot, motive q) →
      motive (.bool must filter should mustNot minimum)) (q : Query) : motive q := by
  refine @Query.rec motive (fun qs ↦ ∀ q ∈ qs, motive q)
    present matchText matchQuery matchPhrasePrefix term range nested bool ?_ ?_ q
  · simp
  · intro q qs hq hqs r hr
    rcases List.mem_cons.1 hr with rfl | hr
    · exact hq
    · exact hqs r hr

theorem Query.underAll_eq (path : String) (qs : List Query) :
    underAll path qs = qs.map (under path) := by
  induction qs with
  | nil => rfl
  | cons q qs ih => rw [underAll, ih, List.map_cons]

/-- **A query moved below a path asks the same of the fields below it.** -/
theorem Query.holds_under (path : String) (q : Query) :
    (q.under path).Holds docs o ↔ q.Holds (docs.below path) o := by
  induction q using Query.inductionOn generalizing o with
  | present | matchText | matchQuery | matchPhrasePrefix | term | range => exact Iff.rfl
  | nested inner q ih =>
    rw [under, Holds, Holds]
    exact exists_congr fun child ↦ and_congr_right fun _ ↦ ih
  | bool must filter should mustNot minimum ihMust ihFilter ihShould ihMustNot =>
    have hclause : ∀ qs : List Query,
        (∀ q ∈ qs, ∀ {o}, (q.under path).Holds docs o ↔ q.Holds (docs.below path) o) →
        meanings docs (underAll path qs) o = meanings (docs.below path) qs o := by
      intro qs ih
      rw [meanings_eq, meanings_eq, underAll_eq, List.map_map]
      exact List.map_congr_left fun q hq ↦ propext (ih q hq)
    rw [under, Holds, Holds, hclause must ihMust, hclause filter ihFilter,
      hclause should ihShould, hclause mustNot ihMustNot]

/-! ## Trees -/

namespace Kql

mutual

/-- Whether the values of a field are met at an object. -/
def Values.Holds (docs : Documents Obj) (field : String) : Values → Obj → Prop
  | .literal text, o => docs.leaf o field (.matchText text)
  | .wildcard, o => docs.leaf o field .present
  | .or values, o => ∃ p ∈ Values.meanings docs field values o, p
  | .and values, o => ∀ p ∈ Values.meanings docs field values o, p
  | .not values, o => ¬ values.Holds docs field o

/-- What each of several values says of a field of an object. -/
def Values.meanings (docs : Documents Obj) (field : String) : List Values → Obj → List Prop
  | [], _ => []
  | v :: vs, o => v.Holds docs field o :: Values.meanings docs field vs o

end

/-- The absolute name of a field under an enclosing path, if there is one. -/
def fieldAt (path : Option String) (field : String) : String :=
  match path with
  | none => field
  | some path => path ++ "." ++ field

mutual

/-- Whether a tree holds at an object under an enclosing path. -/
def Node.Holds (docs : Documents Obj) (path : Option String) : Node → Obj → Prop
  | .and children, o => ∀ p ∈ Node.meanings docs path children o, p
  | .or children, o => ∃ p ∈ Node.meanings docs path children o, p
  | .not operand, o => ¬ operand.Holds docs path o
  | .field name values, o => values.Holds docs (fieldAt path name) o
  | .compare name op value, o => docs.leaf o (fieldAt path name) (.range [(op, value)])
  | .present name, o => docs.leaf o (fieldAt path name) .present
  | .nested name query, o => ∃ child ∈ docs.children o (fieldAt path name),
      query.Holds docs (some (fieldAt path name)) child

/-- What each of several trees says of an object. -/
def Node.meanings (docs : Documents Obj) (path : Option String) : List Node → Obj → List Prop
  | [], _ => []
  | n :: ns, o => n.Holds docs path o :: Node.meanings docs path ns o

end

theorem Values.meanings_eq (field : String) (vs : List Values) :
    meanings docs field vs o = vs.map (Holds docs field · o) := by
  induction vs with
  | nil => rfl
  | cons v vs ih => rw [meanings, ih, List.map_cons]

theorem Node.meanings_eq (path : Option String) (ns : List Node) :
    meanings docs path ns o = ns.map (Holds docs path · o) := by
  induction ns with
  | nil => rfl
  | cons n ns ih => rw [meanings, ih, List.map_cons]

/-- An enclosing path, itself below a path. -/
def pathBelow (path : String) : Option String → String
  | none => path
  | some inner => path ++ "." ++ inner

theorem fieldAt_pathBelow (path : String) (inner : Option String) (field : String) :
    fieldAt (some (pathBelow path inner)) field = path ++ "." ++ fieldAt inner field := by
  cases inner with
  | none => rfl
  | some inner => simp only [fieldAt, pathBelow, String.append_assoc]

/-- The names of the fields are all that a path changes about the values asked for. -/
theorem Values.holds_below (path field : String) (v : Values) :
    v.Holds (docs.below path) field o ↔ v.Holds docs (path ++ "." ++ field) o := by
  induction v using Values.inductionOn with
  | literal text => exact Iff.rfl
  | wildcard => exact Iff.rfl
  | or vs ih =>
    rw [Holds, Holds, meanings_eq, meanings_eq, exists_mem_map, exists_mem_map]
    exact exists_congr fun v ↦ and_congr_right fun hv ↦ ih v hv
  | and vs ih =>
    rw [Holds, Holds, meanings_eq, meanings_eq, List.forall_mem_map, List.forall_mem_map]
    exact forall₂_congr ih
  | not v ih => exact not_congr ih

/-- **A tree in a scope reads its fields below the path of the scope.** -/
theorem Node.holds_below (path : String) (inner : Option String) (n : Node) :
    n.Holds (docs.below path) inner o ↔ n.Holds docs (some (pathBelow path inner)) o := by
  induction n using Node.inductionOn generalizing inner o with
  | and ns ih =>
    rw [Holds, Holds, meanings_eq, meanings_eq, List.forall_mem_map, List.forall_mem_map]
    exact forall₂_congr fun n hn ↦ ih n hn inner
  | or ns ih =>
    rw [Holds, Holds, meanings_eq, meanings_eq, exists_mem_map, exists_mem_map]
    exact exists_congr fun n ↦ and_congr_right fun hn ↦ ih n hn inner
  | not n ih => exact not_congr (ih inner)
  | field name values =>
    rw [Holds, Holds, fieldAt_pathBelow]
    exact values.holds_below path _
  | compare name op value =>
    rw [Holds, Holds, fieldAt_pathBelow]
    exact Iff.rfl
  | present name =>
    rw [Holds, Holds, fieldAt_pathBelow]
    exact Iff.rfl
  | nested name n ih =>
    rw [Holds, Holds, fieldAt_pathBelow]
    exact exists_congr fun child ↦ and_congr_right fun _ ↦ ih (some (fieldAt inner name))

end Kql

/-! ## The query of a tree -/

open Kql (Node Values)

theorem Query.ofValuesList_eq (field : String) (vs : List Values) :
    ofValuesList field vs = vs.map (ofValues field) := by
  induction vs with
  | nil => rfl
  | cons v vs ih => rw [ofValuesList, ih, List.map_cons]

theorem Query.ofNodes_eq (ns : List Node) : ofNodes ns = ns.map ofNode := by
  induction ns with
  | nil => rfl
  | cons n ns ih => rw [ofNodes, ih, List.map_cons]

theorem Query.holds_ofValues (field : String) (v : Values) :
    (ofValues field v).Holds docs o ↔ v.Holds docs field o := by
  induction v using Values.inductionOn with
  | literal text => exact Iff.rfl
  | wildcard => exact Iff.rfl
  | or vs ih =>
    rw [ofValues, holds_anyOf, ofValuesList_eq, Values.Holds, Values.meanings_eq, exists_mem_map,
      exists_mem_map]
    exact exists_congr fun v ↦ and_congr_right fun hv ↦ ih v hv
  | and vs ih =>
    rw [ofValues, holds_allOf, ofValuesList_eq, Values.Holds, Values.meanings_eq,
      List.forall_mem_map, List.forall_mem_map]
    exact forall₂_congr ih
  | not v ih =>
    rw [ofValues, holds_negate, Values.Holds]
    exact not_congr ih

/-- **The query of a tree says what the tree says**, whatever the documents are. -/
theorem Query.holds_ofNode_iff (docs : Documents Obj) (o : Obj) (tree : Node) :
    (ofNode tree).Holds docs o ↔ tree.Holds docs none o := by
  induction tree using Node.inductionOn generalizing docs o with
  | and ns ih =>
    rw [ofNode, holds_allOf, ofNodes_eq, Node.Holds, Node.meanings_eq, List.forall_mem_map,
      List.forall_mem_map]
    exact forall₂_congr fun n hn ↦ ih n hn docs o
  | or ns ih =>
    rw [ofNode, holds_anyOf, ofNodes_eq, Node.Holds, Node.meanings_eq, exists_mem_map,
      exists_mem_map]
    exact exists_congr fun n ↦ and_congr_right fun hn ↦ ih n hn docs o
  | not n ih =>
    rw [ofNode, holds_negate, Node.Holds]
    exact not_congr (ih docs o)
  | field name values => exact holds_ofValues name values
  | compare name op value => exact Iff.rfl
  | present name => exact Iff.rfl
  | nested name n ih =>
    rw [ofNode, within, Holds, Node.Holds]
    refine exists_congr fun child ↦ and_congr_right fun _ ↦ ?_
    rw [holds_under, ih (docs.below name) child]
    exact n.holds_below name none

end meaning

end LogSearch
