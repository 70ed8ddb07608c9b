import LogSearch.Comparison

/-!
# Query trees

A query is a tree of conditions on documents, joined with `and`, `or` and `not`.  The values that a
field is asked for form a tree of their own, joined the same way: `tag:(a or b)` asks for either
value.  Field names inside a nested scope are relative to the scope's field.

## What is here

* `Values` and `Node` — the two trees, with decidable equality;
* `Node.conjunction`, `Node.disjunction` and the same for values — a chain of operands as a tree:
  one operand stands for itself;
* `Node.height` — the depth of a tree, values included.
-/

set_option autoImplicit false
namespace LogSearch.Kql

/-- The values a field is asked for. -/
inductive Values
  /-- One text to match. -/
  | literal (text : String)
  /-- Any value at all. -/
  | wildcard
  | or (values : List Values)
  | and (values : List Values)
  | not (values : Values)
  deriving Repr, Inhabited

/-- A condition on documents. -/
inductive Node
  | and (children : List Node)
  | or (children : List Node)
  | not (operand : Node)
  /-- The field has the values. -/
  | field (name : String) (values : Values)
  /-- The field compares so with the value. -/
  | compare (name : String) (op : Comparison) (value : String)
  /-- The field has some value. -/
  | present (name : String)
  /-- Some object in the field meets the query, whose fields are relative to the field. -/
  | nested (name : String) (query : Node)
  deriving Repr, Inhabited

/-! ## Equality -/

mutual

/-- Decides whether two value trees are the same. -/
def Values.decideEq : (a b : Values) → Decidable (a = b)
  | .literal s, b => match b with
    | .literal t => decidable_of_iff (s = t) (by simp)
    | .wildcard | .or _ | .and _ | .not _ => isFalse nofun
  | .wildcard, b => match b with
    | .wildcard => isTrue rfl
    | .literal _ | .or _ | .and _ | .not _ => isFalse nofun
  | .or vs, b => match b with
    | .or ws => have := Values.decideEqList vs ws; decidable_of_iff (vs = ws) (by simp)
    | .literal _ | .wildcard | .and _ | .not _ => isFalse nofun
  | .and vs, b => match b with
    | .and ws => have := Values.decideEqList vs ws; decidable_of_iff (vs = ws) (by simp)
    | .literal _ | .wildcard | .or _ | .not _ => isFalse nofun
  | .not v, b => match b with
    | .not w => have := Values.decideEq v w; decidable_of_iff (v = w) (by simp)
    | .literal _ | .wildcard | .or _ | .and _ => isFalse nofun

/-- Decides whether two lists of value trees are the same. -/
def Values.decideEqList : (as bs : List Values) → Decidable (as = bs)
  | [], bs => match bs with
    | [] => isTrue rfl
    | _ :: _ => isFalse nofun
  | a :: as, bs => match bs with
    | [] => isFalse nofun
    | b :: bs =>
      have := Values.decideEq a b
      have := Values.decideEqList as bs
      decidable_of_iff (a = b ∧ as = bs) (by simp)

end

instance : DecidableEq Values := Values.decideEq

mutual

/-- Decides whether two trees are the same. -/
def Node.decideEq : (a b : Node) → Decidable (a = b)
  | .and as, b => match b with
    | .and bs => have := Node.decideEqList as bs; decidable_of_iff (as = bs) (by simp)
    | .or _ | .not _ | .field .. | .compare .. | .present _ | .nested .. => isFalse nofun
  | .or as, b => match b with
    | .or bs => have := Node.decideEqList as bs; decidable_of_iff (as = bs) (by simp)
    | .and _ | .not _ | .field .. | .compare .. | .present _ | .nested .. => isFalse nofun
  | .not x, b => match b with
    | .not y => have := Node.decideEq x y; decidable_of_iff (x = y) (by simp)
    | .and _ | .or _ | .field .. | .compare .. | .present _ | .nested .. => isFalse nofun
  | .field n v, b => match b with
    | .field m w => decidable_of_iff (n = m ∧ v = w) (by simp)
    | .and _ | .or _ | .not _ | .compare .. | .present _ | .nested .. => isFalse nofun
  | .compare n o v, b => match b with
    | .compare m p w => decidable_of_iff (n = m ∧ o = p ∧ v = w) (by simp)
    | .and _ | .or _ | .not _ | .field .. | .present _ | .nested .. => isFalse nofun
  | .present n, b => match b with
    | .present m => decidable_of_iff (n = m) (by simp)
    | .and _ | .or _ | .not _ | .field .. | .compare .. | .nested .. => isFalse nofun
  | .nested n x, b => match b with
    | .nested m y => have := Node.decideEq x y; decidable_of_iff (n = m ∧ x = y) (by simp)
    | .and _ | .or _ | .not _ | .field .. | .compare .. | .present _ => isFalse nofun

/-- Decides whether two lists of trees are the same. -/
def Node.decideEqList : (as bs : List Node) → Decidable (as = bs)
  | [], bs => match bs with
    | [] => isTrue rfl
    | _ :: _ => isFalse nofun
  | a :: as, bs => match bs with
    | [] => isFalse nofun
    | b :: bs =>
      have := Node.decideEq a b
      have := Node.decideEqList as bs
      decidable_of_iff (a = b ∧ as = bs) (by simp)

end

instance : DecidableEq Node := Node.decideEq

/-! ## Chains of operands -/

/-- Operands joined into one tree by `wrap`; a single operand stands for itself. -/
def chain {α : Type} (wrap : List α → α) : List α → α
  | [operand] => operand
  | operands => wrap operands

/-- Operands of which all must hold. -/
def Node.conjunction (operands : List Node) : Node := chain .and operands

/-- Operands of which one must hold. -/
def Node.disjunction (operands : List Node) : Node := chain .or operands

/-- Values of which all must be there. -/
def Values.conjunction (operands : List Values) : Values := chain .and operands

/-- Values of which one must be there. -/
def Values.disjunction (operands : List Values) : Values := chain .or operands

/-! ## Height -/

mutual

/-- The depth of a value tree; a literal has depth one. -/
def Values.height : Values → Nat
  | .literal _ | .wildcard => 1
  | .or values => Values.heightList values + 1
  | .and values => Values.heightList values + 1
  | .not values => values.height + 1

/-- The largest depth in a list of value trees. -/
def Values.heightList : List Values → Nat
  | [] => 0
  | v :: vs => max v.height (Values.heightList vs)

end

mutual

/-- The depth of a tree; a leaf has depth one and a field is one above its values. -/
def Node.height : Node → Nat
  | .and children => Node.heightList children + 1
  | .or children => Node.heightList children + 1
  | .not operand => operand.height + 1
  | .field _ values => values.height + 1
  | .compare .. | .present _ => 1
  | .nested _ query => query.height + 1

/-- The largest depth in a list of trees. -/
def Node.heightList : List Node → Nat
  | [] => 0
  | n :: ns => max n.height (Node.heightList ns)

end

end LogSearch.Kql
