import LogSearch.Proofs.Kql.Nesting
import LogSearch.Proofs.Kql.Signs
import Mathlib.Control.Monad.Basic

/-!
# Reading a printed tree

A tree of which no node is misread is derived from its words, so its text is read as the tree again.
In the other direction a printed tree that is read back as itself has no such node: accepted tokens
never hold two `not`s in a row, and they compare with just the signs that their tree has.

## What is here

* `IsQuery.hasOperands` — no chain of one operand is ever read;
* `run_ne_ok_of_not_not` — accepted tokens never hold two `not`s in a row;
* `isQuery_words_iff` — which trees their own words derive;
* `parse_print_eq_ok_iff` — which of the trees that were read are read back from their text;
* `parse_print_self_iff` — which of all trees are.
-/

set_option autoImplicit false
namespace LogSearch.Kql

/-! ## Numbers of operands -/

theorem Separated.forall_mem {α : Type} {separator : TokenKind} {P : α → Prop} {ts : List Token}
    {as : List α} (h : Separated separator (fun _ a ↦ P a) ts as) : ∀ a ∈ as, P a := by
  induction h with
  | one h => simpa using h
  | cons h _ _ ih => simpa using ⟨h, ih⟩

theorem Vals.hasOperands {limit : Nat} {ts : List Token} {v : Values} (h : Vals limit ts v) :
    ∀ w ∈ v.subtrees, w.HasOperands := by
  refine Vals.inductionOn (P := fun _ v ↦ ∀ w ∈ v.subtrees, w.HasOperands) ?_ ?_ ?_ ?_ ?_ ?_ h
  · exact fun _ _ _ _ _ _ h ↦ h
  · simp [Values.subtrees, Values.HasOperands]
  · simp [Values.subtrees, Values.HasOperands]
  · intro _ _ v _ h w hw
    rcases Values.mem_subtrees_not.1 hw with rfl | hw
    · trivial
    · exact h w hw
  · intro _ vs hlen h w hw
    rcases Values.mem_subtrees_and.1 hw with rfl | ⟨v, hv, hw⟩
    · exact hlen
    · exact h.forall_mem v hv w hw
  · intro _ vs hlen h w hw
    rcases Values.mem_subtrees_or.1 hw with rfl | ⟨v, hv, hw⟩
    · exact hlen
    · exact h.forall_mem v hv w hw

/-- **No chain of one operand is ever read**: every `and` and `or` has two operands at least. -/
theorem IsQuery.hasOperands {limit : Nat} {ts : List Token} {tree : Node}
    (h : IsQuery limit ts tree) : ∀ n ∈ tree.subtrees, n.HasOperands := by
  refine IsQuery.inductionOn (P := fun _ n ↦ ∀ m ∈ n.subtrees, m.HasOperands)
    (fun _ _ _ h ↦ h.hasOperands) ?_ ?_ ?_ ?_ ?_ ?_ ?_ ?_ h
  · exact fun _ _ _ _ _ _ h ↦ h
  · intro f _ _ _ _ n _ _ _ _ h m hm
    rcases Node.mem_subtrees_nested.1 hm with rfl | hm
    · trivial
    · exact h m hm
  · intro f _ _ v _ _ hv m hm
    rw [Node.subtrees, List.mem_singleton] at hm
    subst hm
    exact hv
  · simp [Node.subtrees, Node.HasOperands]
  · simp [Node.subtrees, Node.HasOperands]
  · intro _ _ n _ h m hm
    rcases Node.mem_subtrees_not.1 hm with rfl | hm
    · trivial
    · exact h m hm
  · intro _ ns hlen h m hm
    rcases Node.mem_subtrees_and.1 hm with rfl | ⟨n, hn, hm⟩
    · exact hlen
    · exact h.forall_mem n hn m hm
  · intro _ ns hlen h m hm
    rcases Node.mem_subtrees_or.1 hm with rfl | ⟨n, hn, hm⟩
    · exact hlen
    · exact h.forall_mem n hn m hm

/-! ## No two `not`s in a row -/

/-- Whether the machine has read a `not` whose operand is due. -/
def State.Negated : State → Prop
  | .operand s => s.chain.negated = true
  | .value v => v.chain.negated = true
  | _ => False

theorem Scope.not_operatorStep_not {s : Scope} {t : Token} (ht : t.kind = .not) (s' : State) :
    s.operatorStep t ≠ .ok s' := by
  intro h
  simp only [operatorStep, ht] at h
  split at h <;> cases h

theorem State.negated_of_step {limit : Nat} {s s' : State} {t : Token} (ht : t.kind = .not)
    (h : s.step limit t = .ok s') : s'.Negated := by
  cases s with
  | operand s =>
    simp only [step, Scope.operandStep, ht] at h
    split at h <;> cases h
    rfl
  | field name s =>
    simp only [step, ht] at h
    exact absurd h (Scope.not_operatorStep_not ht s')
  | colon name s =>
    simp only [step, Scope.valuesStep, ht] at h
    cases h
  | comparison name op s =>
    simp only [step, ht] at h
    cases h
  | operator s => exact absurd h (Scope.not_operatorStep_not ht s')
  | value v =>
    simp only [step, ValueScope.valueStep, ht] at h
    split at h <;> cases h
    rfl
  | valueOperator v =>
    simp only [step, ValueScope.operatorStep, ht] at h
    cases h

theorem State.step_of_negated {limit : Nat} {s : State} {t : Token} (hs : s.Negated)
    (ht : t.kind = .not) (s' : State) : s.step limit t ≠ .ok s' := by
  intro h
  cases s with
  | operand s =>
    simp only [step, Scope.operandStep, ht] at h
    rw [Negated] at hs
    rw [if_pos hs] at h
    cases h
  | value v =>
    simp only [step, ValueScope.valueStep, ht] at h
    rw [Negated] at hs
    rw [if_pos hs] at h
    cases h
  | field | colon | comparison | operator | valueOperator => exact hs

/-- **No accepted query has two `not`s in a row.** -/
theorem run_ne_ok_of_not_not {limit : Nat} {s : State} {pre post : List Token} {t u : Token}
    {tree : Node} (ht : t.kind = .not) (hu : u.kind = .not) :
    run limit s (pre ++ t :: u :: post) ≠ .ok tree := by
  intro h
  induction pre generalizing s with
  | nil =>
    obtain ⟨s', hs, hrun⟩ := exists_step_of_run h
    obtain ⟨s'', hs', -⟩ := exists_step_of_run hrun
    exact State.step_of_negated (State.negated_of_step ht hs) hu s'' hs'
  | cons v pre ih =>
    obtain ⟨s', -, hrun⟩ := exists_step_of_run h
    exact ih hrun

theorem infix_joinedWords {operator : List Char} {ws : List Word} {wss : List (List Word)}
    (h : ws ∈ wss) : ws <:+: joinedWords operator wss := by
  induction wss with
  | nil => cases h
  | cons us wss ih =>
    cases wss with
    | nil =>
      rw [List.mem_singleton] at h
      subst h
      exact List.infix_rfl
    | cons vs wss =>
      rw [joinedWords_cons]
      rcases List.mem_cons.1 h with rfl | h
      · exact List.infix_append' [] _ _
      · exact (ih h).trans (List.suffix_append_of_suffix (List.suffix_cons _ _)).isInfix

theorem infix_groupWords {operator : List Char} {ws : List Word} {wss : List (List Word)}
    (h : ws ∈ wss) : ws <:+: groupWords operator wss :=
  (infix_joinedWords h).trans ⟨[_], [_], rfl⟩

/-- The words of a node stand in those of the tree. -/
theorem Node.infix_words {m n : Node} (h : m ∈ n.subtrees) : m.words <:+: n.words := by
  induction n using Node.inductionOn with
  | and ns ih =>
    rcases mem_subtrees_and.1 h with rfl | ⟨n, hn, hm⟩
    · exact List.infix_rfl
    · rw [words, wordsList_eq]
      exact (ih n hn hm).trans (infix_groupWords (List.mem_map_of_mem hn))
  | or ns ih =>
    rcases mem_subtrees_or.1 h with rfl | ⟨n, hn, hm⟩
    · exact List.infix_rfl
    · rw [words, wordsList_eq]
      exact (ih n hn hm).trans (infix_groupWords (List.mem_map_of_mem hn))
  | not n ih =>
    rcases mem_subtrees_not.1 h with rfl | hm
    · exact List.infix_rfl
    · exact (ih hm).trans (List.suffix_cons _ _).isInfix
  | field name values => exact List.mem_singleton.1 h ▸ List.infix_rfl
  | compare name op value => exact List.mem_singleton.1 h ▸ List.infix_rfl
  | present name => exact List.mem_singleton.1 h ▸ List.infix_rfl
  | nested name n ih =>
    rcases mem_subtrees_nested.1 h with rfl | hm
    · exact List.infix_rfl
    · exact (ih hm).trans ⟨[_, _, _], [_], rfl⟩

/-- A `not` of a `not` has two `not`s in a row in its words. -/
theorem Node.not_isDoubleNot_of_words {limit : Nat} {ts : List Token} {n tree : Node}
    (hts : ts.map Token.word = n.words) (h : IsQuery limit ts tree) {m : Node}
    (hm : m ∈ n.subtrees) : ¬ m.IsDoubleNot := by
  intro hdouble
  obtain ⟨pre, post, hpre⟩ := infix_words hm
  have hrun := run_of_readTokens (readTokens_of_isQuery h)
  match m, hdouble with
  | .not (.not x), _ =>
    rw [← hts] at hpre
    obtain ⟨us, vs, rfl, hus, hvs⟩ := List.map_eq_append_iff.1 hpre.symm
    obtain ⟨us, ws, rfl, hus, hws⟩ := List.map_eq_append_iff.1 hus
    obtain ⟨t, ws, rfl, ht, hws⟩ := List.map_eq_cons_iff.1 hws
    obtain ⟨u, ws, rfl, hu, hws⟩ := List.map_eq_cons_iff.1 hws
    rw [List.append_assoc] at hrun
    exact run_ne_ok_of_not_not (congrArg Prod.fst ht) (congrArg Prod.fst hu) hrun

/-! ## Reading back -/

/-- **A tree is derived from its own words if and only if** every `and` and `or` of it has two
operands, no node is misread, and the limit allows its groups. -/
theorem isQuery_words_iff {limit : Nat} {ts : List Token} {n : Node}
    (hts : ts.map Token.word = n.words) :
    IsQuery limit ts n ↔
      (∀ m ∈ n.subtrees, m.HasOperands) ∧ n.Faithful ∧ n.nesting ≤ limit := by
  constructor
  · intro h
    refine ⟨h.hasOperands, fun m hm ↦ ⟨?_, ?_⟩, Node.nesting_le_of_isQuery hts h⟩
    · exact Node.not_isDoubleNot_of_words hts h hm
    · exact Node.not_sticks_of_words hts h hm
  · rintro ⟨hn, hf, hlimit⟩
    exact Disjunction.of_negatable (Node.negatable_of_words hn hf hlimit hts)

theorem parse_eq_ok_iff {limit : Nat} {text : String} {tree : Node} :
    parse limit text = .ok tree ↔ ∃ ts, tokenize text = .ok ts ∧ IsQuery limit ts tree := by
  rw [parse]
  cases tokenize text with
  | error e => simp [bind, Except.bind]
  | ok ts =>
    have h : parseTokens limit text ts = .ok tree ↔ IsQuery limit ts tree := parseTokens_iff_isQuery
    simpa [bind, Except.bind] using h

/-- The text of a tree is cut into tokens whose words are those of the tree. -/
theorem tokenize_print (n : Node) :
    ∃ ts, tokenize n.print = .ok ts ∧ ts.map Token.word = n.words := by
  refine tokenize_of_words ?_
  rw [Node.print, String.toList_ofList]
  exact words_write n

/-- **Which trees are read back from their text**: of those that some query was read as, the ones of
which no node is misread, under every limit that allows their groups. -/
theorem parse_print_eq_ok_iff {limit limit' : Nat} {text : String} {tree : Node}
    (h : parse limit text = .ok tree) :
    parse limit' tree.print = .ok tree ↔ tree.Faithful ∧ tree.nesting ≤ limit' := by
  obtain ⟨_, -, hquery⟩ := parse_eq_ok_iff.1 h
  obtain ⟨ts, htokens, hts⟩ := tokenize_print tree
  have hiff : IsQuery limit' ts tree ↔ tree.Faithful ∧ tree.nesting ≤ limit' :=
    (isQuery_words_iff hts).trans (and_iff_right hquery.hasOperands)
  rw [parse_eq_ok_iff, htokens]
  simpa using hiff

/-- Two queries that are not read back, and one that is. -/
theorem parse_print_samples :
    (parse 1 "not (not a)" = .ok (.not (.not (.present "a"))) ∧
      ¬ parse 1 (Node.not (.not (.present "a"))).print = .ok (.not (.not (.present "a")))) ∧
    (parse 0 "a<\"=5\"" = .ok (.compare "a" .lt "=5") ∧
      ¬ parse 0 (Node.compare "a" .lt "=5").print = .ok (.compare "a" .lt "=5")) ∧
    (parse 1 "a or not b>\"x y\"" = .ok (.or [.present "a", .not (.compare "b" .gt "x y")]) ∧
      parse 1 (Node.or [.present "a", .not (.compare "b" .gt "x y")]).print
        = .ok (.or [.present "a", .not (.compare "b" .gt "x y")])) := by
  have hnot : parse 1 "not (not a)" = .ok (.not (.not (.present "a"))) := by
    rw [parse, tokenize, lexemes_eq_within (Nat.le_refl _)]
    decide +kernel
  have hsign : parse 0 "a<\"=5\"" = .ok (.compare "a" .lt "=5") := by
    rw [parse, tokenize, lexemes_eq_within (Nat.le_refl _)]
    decide +kernel
  have hor : parse 1 "a or not b>\"x y\""
      = .ok (.or [.present "a", .not (.compare "b" .gt "x y")]) := by
    rw [parse, tokenize, lexemes_eq_within (Nat.le_refl _)]
    decide +kernel
  refine ⟨⟨hnot, fun h ↦ ?_⟩, ⟨hsign, fun h ↦ ?_⟩, hor, ?_⟩
  · exact absurd ((parse_print_eq_ok_iff hnot).1 h) (by decide)
  · exact absurd ((parse_print_eq_ok_iff hsign).1 h) (by decide)
  · exact (parse_print_eq_ok_iff hor).2 (by decide)

/-- **Exactly these of all trees are read back from their text**: every `and` and `or`, of conditions
and of values, has two operands at least, no `not` stands right behind a `not`, no sign takes the
first character of its value, and the limit allows the groups of the text. -/
theorem parse_print_self_iff (limit : Nat) (n : Node) :
    parse limit n.print = .ok n ↔
      (∀ m ∈ n.subtrees, m.HasOperands) ∧ (∀ m ∈ n.subtrees, ¬ m.IsDoubleNot) ∧
        (∀ m ∈ n.subtrees, ¬ m.Sticks) ∧ n.nesting ≤ limit := by
  obtain ⟨ts, htokens, hts⟩ := tokenize_print n
  have hread : parse limit n.print = .ok n ↔ IsQuery limit ts n := by
    rw [parse_eq_ok_iff, htokens]
    simp
  have hfaithful : n.Faithful ↔
      (∀ m ∈ n.subtrees, ¬ m.IsDoubleNot) ∧ ∀ m ∈ n.subtrees, ¬ m.Sticks :=
    forall₂_and
  rw [hread, isQuery_words_iff hts, hfaithful, and_assoc]

end LogSearch.Kql
