import LogSearch.Proofs.Query.Meaning

/-!
# Queries in one pass from the top

The query of a tree is built from the inside out: whenever a scope is closed, all the fields in it
are moved below its path once more.  The same query comes from one pass from the top down, which
carries the path of the scopes around a node and writes every name in full (`topDown`).

Both rest on what moving does.  It renames the fields and paths of a query and nothing else
(`under_eq_rename`), and renamings compose, so moving twice is moving once, below the joined path
(`under_under`).

## What is here

* `rename` — a query with every field and path renamed, with `rename_rename`;
* `under_eq_rename`, `under_under` — moving below a path, and below two;
* `topDown` — the query of a tree in one pass;
* `topDown_some_eq_under` — what is written below a path is what is moved there;
* `ofNode_eq_topDown` — both ways lead to the same query.
-/

set_option autoImplicit false
namespace LogSearch.Query

open Kql (Node Values fieldAt)

/-! ## Renaming -/

mutual

/-- The query with every field and path renamed. -/
def rename (f : String → String) : Query → Query
  | .present field => .present (f field)
  | .matchText field text => .matchText (f field) text
  | .matchQuery field text => .matchQuery (f field) text
  | .matchPhrasePrefix field text => .matchPhrasePrefix (f field) text
  | .term field value => .term (f field) value
  | .range field bounds => .range (f field) bounds
  | .nested path query => .nested (f path) (query.rename f)
  | .bool must filter should mustNot minimum =>
    .bool (renameAll f must) (renameAll f filter) (renameAll f should) (renameAll f mustNot) minimum

/-- The queries with every field and path renamed. -/
def renameAll (f : String → String) : List Query → List Query
  | [] => []
  | q :: qs => q.rename f :: renameAll f qs

end

theorem renameAll_eq (f : String → String) (qs : List Query) :
    renameAll f qs = qs.map (rename f) := by
  induction qs with
  | nil => rfl
  | cons q qs ih => rw [renameAll, ih, List.map_cons]

theorem rename_rename (f g : String → String) (q : Query) :
    (q.rename f).rename g = q.rename (g ∘ f) := by
  induction q using Query.inductionOn with
  | present | matchText | matchQuery | matchPhrasePrefix | term | range => rfl
  | nested path q ih => rw [rename, rename, rename, ih, Function.comp_apply]
  | bool must filter should mustNot minimum ihMust ihFilter ihShould ihMustNot =>
    have hclause : ∀ qs : List Query, (∀ q ∈ qs, (q.rename f).rename g = q.rename (g ∘ f)) →
        renameAll g (renameAll f qs) = renameAll (g ∘ f) qs := by
      intro qs ih
      rw [renameAll_eq, renameAll_eq, renameAll_eq, List.map_map]
      exact List.map_congr_left ih
    rw [rename, rename, rename, hclause must ihMust, hclause filter ihFilter,
      hclause should ihShould, hclause mustNot ihMustNot]

/-! ## Moving below a path -/

/-- Moving a query below a path renames its fields and paths, and leaves all else as it is. -/
theorem under_eq_rename (path : String) (q : Query) : q.under path = q.rename (joinPath path) := by
  induction q using Query.inductionOn with
  | present | matchText | matchQuery | matchPhrasePrefix | term | range => rfl
  | nested inner q ih => rw [under, rename, ih]
  | bool must filter should mustNot minimum ihMust ihFilter ihShould ihMustNot =>
    have hclause : ∀ qs : List Query, (∀ q ∈ qs, q.under path = q.rename (joinPath path)) →
        underAll path qs = renameAll (joinPath path) qs := by
      intro qs ih
      rw [underAll_eq, renameAll_eq]
      exact List.map_congr_left ih
    rw [under, rename, hclause must ihMust, hclause filter ihFilter, hclause should ihShould,
      hclause mustNot ihMustNot]

theorem joinPath_joinPath (outer inner field : String) :
    joinPath outer (joinPath inner field) = joinPath (joinPath outer inner) field := by
  simp only [joinPath, String.append_assoc]

/-- Moving below one path and then below another is moving below both of them, joined. -/
theorem under_under (inner outer : String) (q : Query) :
    (q.under inner).under outer = q.under (joinPath outer inner) := by
  rw [under_eq_rename, under_eq_rename, under_eq_rename, rename_rename]
  exact congrArg (rename · q) (funext (joinPath_joinPath outer inner))

/-! ## One pass -/

mutual

/-- The query of a tree under an enclosing path, with every name written in full at once. -/
def topDown (path : Option String) : Node → Query
  | .and children => allOf (topDownAll path children)
  | .or children => anyOf (topDownAll path children)
  | .not operand => (topDown path operand).negate
  | .field name values => ofValues (fieldAt path name) values
  | .compare name op value => compare (fieldAt path name) op value
  | .present name => .present (fieldAt path name)
  | .nested name query =>
    .nested (fieldAt path name) (topDown (some (fieldAt path name)) query)

/-- The queries of several trees under an enclosing path. -/
def topDownAll (path : Option String) : List Node → List Query
  | [] => []
  | n :: ns => topDown path n :: topDownAll path ns

end

theorem topDownAll_eq (path : Option String) (ns : List Node) :
    topDownAll path ns = ns.map (topDown path) := by
  induction ns with
  | nil => rfl
  | cons n ns ih => rw [topDownAll, ih, List.map_cons]

theorem under_allOf (path : String) (qs : List Query) :
    (allOf qs).under path = allOf (qs.map (under path)) := by
  rw [allOf, under, underAll_eq path qs]
  rfl

theorem under_anyOf (path : String) (qs : List Query) :
    (anyOf qs).under path = anyOf (qs.map (under path)) := by
  rw [anyOf, under, underAll_eq path qs]
  rfl

/-- A field alone decides where the values asked of it are looked for. -/
theorem under_ofValues (path field : String) (v : Values) :
    (ofValues field v).under path = ofValues (joinPath path field) v := by
  induction v using Values.inductionOn with
  | literal | wildcard => rfl
  | or vs ih =>
    rw [ofValues, under_anyOf, ofValuesList_eq, ofValues, ofValuesList_eq, List.map_map]
    exact congrArg anyOf (List.map_congr_left ih)
  | and vs ih =>
    rw [ofValues, under_allOf, ofValuesList_eq, ofValues, ofValuesList_eq, List.map_map]
    exact congrArg allOf (List.map_congr_left ih)
  | not v ih => exact congrArg negate ih

/-- **The query of a tree in a scope is the query of the tree alone, moved below the path.**  Inside
the tree the path of an inner scope has been joined to the outer one before the fields are
reached. -/
theorem topDown_some_eq_under (path : String) (n : Node) :
    topDown (some path) n = (ofNode n).under path := by
  induction n using Node.inductionOn generalizing path with
  | and ns ih =>
    rw [topDown, topDownAll_eq, ofNode, ofNodes_eq, under_allOf, List.map_map]
    exact congrArg allOf (List.map_congr_left fun n hn ↦ ih n hn path)
  | or ns ih =>
    rw [topDown, topDownAll_eq, ofNode, ofNodes_eq, under_anyOf, List.map_map]
    exact congrArg anyOf (List.map_congr_left fun n hn ↦ ih n hn path)
  | not n ih => exact congrArg negate (ih path)
  | field name values => exact (under_ofValues path name values).symm
  | compare | present => rfl
  | nested name n ih =>
    rw [topDown, ofNode, within, under, under_under, ih]
    rfl

theorem topDown_none_eq_ofNode (n : Node) : topDown none n = ofNode n := by
  induction n using Node.inductionOn with
  | and ns ih =>
    rw [topDown, topDownAll_eq, ofNode, ofNodes_eq]
    exact congrArg allOf (List.map_congr_left ih)
  | or ns ih =>
    rw [topDown, topDownAll_eq, ofNode, ofNodes_eq]
    exact congrArg anyOf (List.map_congr_left ih)
  | not n ih => exact congrArg negate ih
  | field | compare | present => rfl
  | nested name n ih =>
    rw [topDown, ofNode, within, fieldAt, topDown_some_eq_under]

/-- **Building a query from the inside out is one pass from the top down**, as moving below two paths
is moving below the joined one.  Moving renames the fields and paths, each to its name below the
path; of all that is not a name, nothing changes. -/
theorem ofNode_eq_topDown :
    (∀ tree : Node, ofNode tree = topDown none tree) ∧
    ∀ (q : Query) (a b : String),
      (q.under a).under b = q.under (b ++ "." ++ a) ∧
      q.under a = q.rename (fun name ↦ a ++ "." ++ name) ∧
      (q.under a).rename (fun _ ↦ "") = q.rename (fun _ ↦ "") := by
  refine ⟨fun tree ↦ (topDown_none_eq_ofNode tree).symm, fun q a b ↦
    ⟨under_under a b q, under_eq_rename a q, ?_⟩⟩
  rw [under_eq_rename, rename_rename]
  rfl

/-- Two scopes with a list of values inside: every name is written in full, the path of the inner scope
too. -/
example :
    let tree : Node := .nested "a" (.nested "b" (.and
      [.field "c" (.or [.literal "x", .not (.literal "y")]), .compare "d" .gt "1"]))
    let either : Query := .bool [] []
      [.matchText "a.b.c" "x", .bool [] [] [] [.matchText "a.b.c" "y"] none] [] (some 1)
    topDown none tree
      = .nested "a" (.nested "a.b" (.bool [] [either, .range "a.b.d" [(.gt, "1")]] [] [] none)) := rfl

end LogSearch.Query
