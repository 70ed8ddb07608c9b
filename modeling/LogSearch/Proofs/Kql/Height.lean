import LogSearch.Proofs.Kql.RoundTrip
import Mathlib.Data.Nat.Basic
import Mathlib.Order.Basic

/-!
# The height of a query

Whatever goes through a query tree goes as deep as the tree is high, and a tree is high only where
groups stand inside each other.  A chain of operands adds an `or`, an `and` and a `not` to the highest
of them and no more, however long it is: operands of `or` are no `or`s but in a group of their own, and
so it is for `and`, and no `not` stands behind a `not`.  A group of conditions adds at most the node of
the field that it is nested in, and a group of values adds nothing.

So the limit on open groups bounds the height: by four for each of them, and five for what stands in
none (`parse_height_le`).

## What is here

* `IsHeight`, `Disjunction.height_le` — what a chain of operands adds to them;
* `Vals.height_le`, `Sub.height_le`, `IsQuery.height_le` — heights, level by level;
* `parse_height_le` — the height of what is read.
-/

set_option autoImplicit false
namespace LogSearch.Kql

/-! ## Chains -/

/-- A height of trees: each of the nodes that join operands is one above the highest of them at
most. -/
structure IsHeight {α : Type} [Joined α] (height : α → Nat) : Prop where
  not (a : α) : height (Joined.not a) ≤ height a + 1
  and {as : List α} {b : Nat} (h : ∀ a ∈ as, height a ≤ b) : height (Joined.and as) ≤ b + 1
  or {as : List α} {b : Nat} (h : ∀ a ∈ as, height a ≤ b) : height (Joined.or as) ≤ b + 1

section chains

variable {α : Type} {height : α → Nat} {wrap : List α → α} {as : List α} {b : Nat}

/-- A chain of one operand is no higher than the operand. -/
theorem height_chain_le (hwrap : height (wrap as) ≤ b + 1) (h : ∀ a ∈ as, height a ≤ b) :
    height (chain wrap as) ≤ b + 1 := by
  match as with
  | [] => exact hwrap
  | [a] => exact (h a List.mem_cons_self).trans (Nat.le_succ b)
  | _ :: _ :: _ => exact hwrap

variable [Joined α] {Operand : List Token → α → Prop} {ts : List Token} {a : α}

theorem Negatable.height_le (hheight : IsHeight height) (hop : ∀ ts a, Operand ts a → height a ≤ b)
    (h : Negatable Joined.not Operand ts a) : height a ≤ b + 1 := by
  cases h with
  | plain h => exact (hop _ _ h).trans (Nat.le_succ b)
  | negated ht h => exact (hheight.not _).trans (Nat.succ_le_succ (hop _ _ h))

theorem Conjunction.height_le (hheight : IsHeight height) (hop : ∀ ts a, Operand ts a → height a ≤ b)
    (h : Conjunction Operand ts a) : height a ≤ b + 2 := by
  obtain ⟨operands, hs, rfl⟩ := h
  have hall : ∀ a ∈ operands, height a ≤ b + 1 :=
    (hs.mono fun _ _ h ↦ Negatable.height_le hheight hop h).forall_mem
  exact height_chain_le (hheight.and hall) hall

/-- **What a group adds to its operands**: an `or`, an `and` and a `not`. -/
theorem Disjunction.height_le (hheight : IsHeight height) (hop : ∀ ts a, Operand ts a → height a ≤ b)
    (h : Disjunction Operand ts a) : height a ≤ b + 3 := by
  obtain ⟨operands, hs, rfl⟩ := h
  have hall : ∀ a ∈ operands, height a ≤ b + 2 :=
    (hs.mono fun _ _ h ↦ Conjunction.height_le hheight hop h).forall_mem
  exact height_chain_le (hheight.or hall) hall

end chains

/-! ## Levels -/

theorem Values.heightList_le {vs : List Values} {b : Nat} (h : ∀ v ∈ vs, v.height ≤ b) :
    Values.heightList vs ≤ b := by
  induction vs with
  | nil => exact Nat.zero_le b
  | cons v vs ih =>
    obtain ⟨hv, hvs⟩ := List.forall_mem_cons.1 h
    exact Nat.max_le.2 ⟨hv, ih hvs⟩

theorem Node.heightList_le {ns : List Node} {b : Nat} (h : ∀ n ∈ ns, n.height ≤ b) :
    Node.heightList ns ≤ b := by
  induction ns with
  | nil => exact Nat.zero_le b
  | cons n ns ih =>
    obtain ⟨hn, hns⟩ := List.forall_mem_cons.1 h
    exact Nat.max_le.2 ⟨hn, ih hns⟩

theorem Values.isHeight : IsHeight Values.height where
  not _ := Nat.le_refl _
  and h := Nat.succ_le_succ (heightList_le h)
  or h := Nat.succ_le_succ (heightList_le h)

theorem Node.isHeight : IsHeight Node.height where
  not _ := Nat.le_refl _
  and h := Nat.succ_le_succ (heightList_le h)
  or h := Nat.succ_le_succ (heightList_le h)

section levels

variable {limit : Nat} {text : String} {ts : List Token} {v : Values} {n tree : Node}

/-- **The values of a field**: parentheses add what joins the values in them, and nothing else. -/
theorem Vals.height_le (h : Vals limit ts v) : v.height ≤ 3 * limit + 1 := by
  induction limit generalizing ts v with
  | zero =>
    cases h with
    | group hl h hr => exact h.elim
    | literal ht => exact Nat.le_refl _
    | wildcard ht => exact Nat.le_refl _
  | succ limit ih =>
    cases h with
    | group hl h hr => exact Disjunction.height_le Values.isHeight (fun _ _ h ↦ ih h) h
    | literal ht => exact Nat.le_add_left _ _
    | wildcard ht => exact Nat.le_add_left _ _

/-- **The operands of a query**: a nested scope adds the node of its field to what joins the conditions
in it. -/
theorem Sub.height_le (h : Sub limit ts n) : n.height ≤ 4 * limit + 2 := by
  induction limit generalizing ts n with
  | zero =>
    cases h with
    | group hl h hr => exact h.elim
    | nested hf hc hl h hr => exact h.elim
    | field hf hc h => exact Nat.succ_le_succ h.height_le
    | compare hf hc hw => exact Nat.le_succ 1
    | present hf => exact Nat.le_succ 1
  | succ limit ih =>
    have hgroup : ∀ {ts n}, Group (limit + 1) ts n → n.height ≤ 4 * limit + 5 :=
      Disjunction.height_le Node.isHeight fun _ _ h ↦ ih h
    cases h with
    | group hl h hr => exact (hgroup h).trans (by omega)
    | nested hf hc hl h hr => exact Nat.succ_le_succ (hgroup h)
    | field hf hc h =>
      have hvalues := h.height_le
      rw [Node.height]
      omega
    | compare hf hc hw => exact Nat.le_add_left 1 _
    | present hf => exact Nat.le_add_left 1 _

theorem IsQuery.height_le (h : IsQuery limit ts tree) : tree.height ≤ 4 * limit + 5 :=
  Disjunction.height_le Node.isHeight (fun _ _ h ↦ Sub.height_le h) h

/-- **The limit bounds the height** of what is read, however long the text is: each open group adds four
nodes at most to the five that a query without groups has.  Every `and` and `or`, of conditions and of
values, has two operands at least. -/
theorem parse_height_le (h : parse limit text = .ok tree) :
    tree.height ≤ 4 * limit + 5 ∧ ∀ n ∈ tree.subtrees, n.HasOperands := by
  obtain ⟨ts, -, hquery⟩ := parse_eq_ok_iff.1 h
  exact ⟨hquery.height_le, hquery.hasOperands⟩

/-- The bound is reached, with one group and without. -/
theorem parse_height_samples :
    (∃ tree, parse 0 "a or b and not x:y" = .ok tree ∧ tree.height = 5 ∧
      tree.height ≤ 4 * 0 + 5 ∧ ∀ n ∈ tree.subtrees, n.HasOperands) ∧
    ∃ tree, parse 1 "a or b and not x:\x7b c or d and not y:z \x7d" = .ok tree ∧ tree.height = 9 ∧
      tree.height ≤ 4 * 1 + 5 ∧ ∀ n ∈ tree.subtrees, n.HasOperands := by
  have hflat : parse 0 "a or b and not x:y"
      = .ok (.or [.present "a", .and [.present "b", .not (.field "x" (.literal "y"))]]) := by
    rw [parse, tokenize, lexemes_eq_within (Nat.le_refl _)]
    decide +kernel
  have hnested : parse 1 "a or b and not x:\x7b c or d and not y:z \x7d"
      = .ok (.or [.present "a", .and [.present "b", .not (.nested "x"
        (.or [.present "c", .and [.present "d", .not (.field "y" (.literal "z"))]]))]]) := by
    rw [parse, tokenize, lexemes_eq_within (Nat.le_refl _)]
    decide +kernel
  exact ⟨⟨_, hflat, rfl, parse_height_le hflat⟩, _, hnested, rfl, parse_height_le hnested⟩

end levels

end LogSearch.Kql
