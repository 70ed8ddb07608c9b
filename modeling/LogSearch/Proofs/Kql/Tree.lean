import LogSearch.Kql.Node

/-!
# Trees, node by node

A query tree holds lists of trees, and so does a tree of values.  Induction over them gives the
statement for every member of such a list (`Values.inductionOn`, `Node.inductionOn`), and conditions on a tree
are conditions on the nodes in it (`Values.subtrees`, `Node.subtrees`), such as that every `and` and
`or` has two operands at least (`HasOperands`).  `nesting` is the depth of groups in the text of a
tree.
-/

set_option autoImplicit false
namespace LogSearch.Kql

/-! ## Induction -/

/-- Induction over the values of a field, with the hypothesis for every operand. -/
@[elab_as_elim]
theorem Values.inductionOn {motive : Values → Prop}
    (literal : ∀ text, motive (.literal text))
    (wildcard : motive .wildcard)
    (or : ∀ values, (∀ v ∈ values, motive v) → motive (.or values))
    (and : ∀ values, (∀ v ∈ values, motive v) → motive (.and values))
    (not : ∀ v, motive v → motive (.not v)) (v : Values) : motive v := by
  refine @Values.rec motive (fun vs ↦ ∀ v ∈ vs, motive v)
    literal wildcard or and not ?_ ?_ v
  · simp
  · intro v vs hv hvs w hw
    rcases List.mem_cons.1 hw with rfl | hw
    · exact hv
    · exact hvs w hw

/-- Induction over trees, with the hypothesis for every operand. -/
@[elab_as_elim]
theorem Node.inductionOn {motive : Node → Prop}
    (and : ∀ children, (∀ n ∈ children, motive n) → motive (.and children))
    (or : ∀ children, (∀ n ∈ children, motive n) → motive (.or children))
    (not : ∀ n, motive n → motive (.not n))
    (field : ∀ name values, motive (.field name values))
    (compare : ∀ name op value, motive (.compare name op value))
    (present : ∀ name, motive (.present name))
    (nested : ∀ name n, motive n → motive (.nested name n)) (n : Node) : motive n := by
  refine @Node.rec motive (fun ns ↦ ∀ n ∈ ns, motive n)
    and or not field compare present nested ?_ ?_ n
  · simp
  · intro n ns hn hns m hm
    rcases List.mem_cons.1 hm with rfl | hm
    · exact hn
    · exact hns m hm

/-! ## The nodes of a tree -/

mutual

/-- The value trees in a value tree, itself included. -/
def Values.subtrees : Values → List Values
  | .literal text => [.literal text]
  | .wildcard => [.wildcard]
  | .or values => .or values :: Values.subtreesList values
  | .and values => .and values :: Values.subtreesList values
  | .not v => .not v :: v.subtrees

/-- The value trees in each of several value trees. -/
def Values.subtreesList : List Values → List Values
  | [] => []
  | v :: vs => v.subtrees ++ Values.subtreesList vs

end

mutual

/-- The trees in a tree, itself included. -/
def Node.subtrees : Node → List Node
  | .and children => .and children :: Node.subtreesList children
  | .or children => .or children :: Node.subtreesList children
  | .not n => .not n :: n.subtrees
  | .field name values => [.field name values]
  | .compare name op value => [.compare name op value]
  | .present name => [.present name]
  | .nested name n => .nested name n :: n.subtrees

/-- The trees in each of several trees. -/
def Node.subtreesList : List Node → List Node
  | [] => []
  | n :: ns => n.subtrees ++ Node.subtreesList ns

end

theorem Values.subtreesList_eq (vs : List Values) :
    Values.subtreesList vs = vs.flatMap Values.subtrees := by
  induction vs with
  | nil => rfl
  | cons v vs ih => exact congrArg (v.subtrees ++ ·) ih

theorem Node.subtreesList_eq (ns : List Node) :
    Node.subtreesList ns = ns.flatMap Node.subtrees := by
  induction ns with
  | nil => rfl
  | cons n ns ih => exact congrArg (n.subtrees ++ ·) ih

theorem Values.self_mem_subtrees (v : Values) : v ∈ v.subtrees := by
  cases v <;> exact List.mem_cons_self

theorem Node.self_mem_subtrees (n : Node) : n ∈ n.subtrees := by
  cases n <;> exact List.mem_cons_self

section members

variable {v w : Values} {vs : List Values} {m n : Node} {ns : List Node} {name : String}

@[simp] theorem Values.mem_subtrees_or :
    w ∈ (Values.or vs).subtrees ↔ w = .or vs ∨ ∃ v ∈ vs, w ∈ v.subtrees := by
  refine List.mem_cons.trans (or_congr_right ?_)
  rw [subtreesList_eq, List.mem_flatMap]

@[simp] theorem Values.mem_subtrees_and :
    w ∈ (Values.and vs).subtrees ↔ w = .and vs ∨ ∃ v ∈ vs, w ∈ v.subtrees := by
  refine List.mem_cons.trans (or_congr_right ?_)
  rw [subtreesList_eq, List.mem_flatMap]

@[simp] theorem Values.mem_subtrees_not :
    w ∈ (Values.not v).subtrees ↔ w = .not v ∨ w ∈ v.subtrees :=
  List.mem_cons

@[simp] theorem Node.mem_subtrees_and :
    m ∈ (Node.and ns).subtrees ↔ m = .and ns ∨ ∃ n ∈ ns, m ∈ n.subtrees := by
  refine List.mem_cons.trans (or_congr_right ?_)
  rw [subtreesList_eq, List.mem_flatMap]

@[simp] theorem Node.mem_subtrees_or :
    m ∈ (Node.or ns).subtrees ↔ m = .or ns ∨ ∃ n ∈ ns, m ∈ n.subtrees := by
  refine List.mem_cons.trans (or_congr_right ?_)
  rw [subtreesList_eq, List.mem_flatMap]

@[simp] theorem Node.mem_subtrees_not :
    m ∈ (Node.not n).subtrees ↔ m = .not n ∨ m ∈ n.subtrees :=
  List.mem_cons

@[simp] theorem Node.mem_subtrees_nested :
    m ∈ (Node.nested name n).subtrees ↔ m = .nested name n ∨ m ∈ n.subtrees :=
  List.mem_cons

end members

/-! ## Numbers of operands -/

/-- Whether a list of values has what it joins: two values at least. -/
def Values.HasOperands : Values → Prop
  | .or values | .and values => 2 ≤ values.length
  | _ => True

/-- Whether an `and` or `or` has what it joins, two operands at least, and the lists of values of a
field have. -/
def Node.HasOperands : Node → Prop
  | .and children | .or children => 2 ≤ children.length
  | .field _ values => ∀ v ∈ values.subtrees, v.HasOperands
  | _ => True

/-! ## Depth of groups -/

mutual

/-- The number of groups that stand inside each other in the text of a value tree: every list of
values is one, and so is a `not`. -/
def Values.nesting : Values → Nat
  | .literal _ | .wildcard => 0
  | .or values => Values.nestingList values + 1
  | .and values => Values.nestingList values + 1
  | .not values => values.nesting + 1

/-- The largest such number in a list of value trees. -/
def Values.nestingList : List Values → Nat
  | [] => 0
  | v :: vs => max v.nesting (Values.nestingList vs)

end

mutual

/-- The number of groups that stand inside each other in the text of a tree: every `and`, `or` and
nested scope is one, and a `not` is none. -/
def Node.nesting : Node → Nat
  | .and children => Node.nestingList children + 1
  | .or children => Node.nestingList children + 1
  | .not operand => operand.nesting
  | .field _ values => values.nesting
  | .compare .. | .present _ => 0
  | .nested _ query => query.nesting + 1

/-- The largest such number in a list of trees. -/
def Node.nestingList : List Node → Nat
  | [] => 0
  | n :: ns => max n.nesting (Node.nestingList ns)

end

theorem Values.nesting_le_nestingList {v : Values} {vs : List Values} (h : v ∈ vs) :
    v.nesting ≤ Values.nestingList vs := by
  induction vs with
  | nil => simp at h
  | cons w vs ih =>
    rw [nestingList]
    rcases List.mem_cons.1 h with rfl | h
    · exact Nat.le_max_left _ _
    · exact Nat.le_trans (ih h) (Nat.le_max_right _ _)

theorem Node.nesting_le_nestingList {n : Node} {ns : List Node} (h : n ∈ ns) :
    n.nesting ≤ Node.nestingList ns := by
  induction ns with
  | nil => simp at h
  | cons m ns ih =>
    rw [nestingList]
    rcases List.mem_cons.1 h with rfl | h
    · exact Nat.le_max_left _ _
    · exact Nat.le_trans (ih h) (Nat.le_max_right _ _)

end LogSearch.Kql
