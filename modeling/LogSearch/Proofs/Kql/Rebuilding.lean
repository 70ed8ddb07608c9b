import LogSearch.Proofs.Kql.Grammar
import LogSearch.Proofs.Kql.Printing

/-!
# Deriving a tree from its words

A tree is printed to be read again.  The grammar derives it from its own words, unless one of its
nodes is written in a way that no query has: an `and` or `or` of fewer than two operands, a `not`
right behind a `not`, or a sign that takes the first character of its value (`Faithful`).

## What is here

* `Node.Faithful` — no node of the tree is misread;
* `Joins` — the operators of groups, with `Joins.vals_of_words` and `Joins.sub_of_words`;
* `Values.vals_of_words`, `Node.negatable_of_words` — a faithful tree is derived from its words.
-/

set_option autoImplicit false
namespace LogSearch.Kql

/-! ## Which trees are misread -/

/-- A `not` of a `not`, for which there are no parentheses. -/
def Node.IsDoubleNot : Node → Prop
  | .not (.not _) => True
  | _ => False

instance : DecidablePred Node.IsDoubleNot := fun n ↦ match n with
  | .not (.not _) => isTrue trivial
  | .not (.and _) | .not (.or _) | .not (.field ..) | .not (.compare ..) | .not (.present _)
  | .not (.nested ..) => isFalse id
  | .and _ | .or _ | .field .. | .compare .. | .present _ | .nested .. => isFalse id

/-- A comparison whose sign takes a character of its value. -/
def Node.Sticks : Node → Prop
  | .compare _ op value => Kql.Sticks op value
  | _ => False

instance : DecidablePred Node.Sticks := fun n ↦ match n with
  | .compare _ op value => inferInstanceAs (Decidable (Kql.Sticks op value))
  | .and _ | .or _ | .not _ | .field .. | .present _ | .nested .. => isFalse id

/-- No node of the tree is misread. -/
def Node.Faithful (n : Node) : Prop := ∀ m ∈ n.subtrees, ¬ m.IsDoubleNot ∧ ¬ m.Sticks

instance : DecidablePred Node.Faithful := fun n ↦
  inferInstanceAs (Decidable (∀ m ∈ n.subtrees, ¬ m.IsDoubleNot ∧ ¬ m.Sticks))

/-! ## Derivations from words -/

section operands

variable {α : Type} {Operand : List Token → α → Prop} {cut : α → List Word}
  {ts : List Token} {a : α} {as : List α}

theorem chain_of_two_le {wrap : List α → α} (h : 2 ≤ as.length) : chain wrap as = wrap as := by
  match as, h with
  | _ :: _ :: _, _ => rfl

theorem separated_of_words {operator : List Char} {P : List Token → α → Prop} (hne : as ≠ [])
    (h : ∀ a ∈ as, ∀ ts : List Token, ts.map Token.word = cut a → P ts a)
    (hts : ts.map Token.word = joinedWords operator (as.map cut)) :
    Separated (keywordKind operator) P ts as := by
  induction as generalizing ts with
  | nil => exact absurd rfl hne
  | cons a as ih =>
    have ha := h a List.mem_cons_self
    have has := fun b hb ↦ h b (List.mem_cons_of_mem _ hb)
    cases as with
    | nil => exact .one (ha ts hts)
    | cons b bs =>
      rw [List.map_cons, List.map_cons, joinedWords_cons, List.map_eq_append_iff] at hts
      obtain ⟨us, vs, rfl, hus, hvs⟩ := hts
      obtain ⟨t, vs, rfl, ht, hvs⟩ := List.map_eq_cons_iff.1 hvs
      exact .cons (ha us hus) (congrArg Prod.fst ht) (ih (by simp) has hvs)

variable [Joined α]

theorem Disjunction.of_negatable (h : Negatable Joined.not Operand ts a) :
    Disjunction Operand ts a :=
  ⟨[a], .one ⟨[a], .one h, rfl⟩, rfl⟩

/-- The operators of groups, and the nodes that they make of the operands. -/
inductive Joins : List Char → (List α → α) → Prop
  | and : Joins ['a', 'n', 'd'] Joined.and
  | or : Joins ['o', 'r'] Joined.or

theorem Joins.disjunction_of_words {operator : List Char} {wrap : List α → α}
    (hjoin : Joins operator wrap) (hlen : 2 ≤ as.length)
    (h : ∀ a ∈ as, ∀ ts : List Token, ts.map Token.word = cut a →
      Negatable Joined.not Operand ts a)
    (hts : ts.map Token.word = joinedWords operator (as.map cut)) :
    Disjunction Operand ts (wrap as) := by
  have hne : as ≠ [] := by rintro rfl; cases hlen
  cases hjoin with
  | and =>
    refine ⟨[Joined.and as], .one ⟨as, separated_of_words hne h hts, ?_⟩, rfl⟩
    exact (chain_of_two_le hlen).symm
  | or =>
    have hone : ∀ a ∈ as, ∀ ts : List Token, ts.map Token.word = cut a → Conjunction Operand ts a :=
      fun a ha ts hts ↦ ⟨[a], .one (h a ha ts hts), rfl⟩
    exact ⟨as, separated_of_words hne hone hts, (chain_of_two_le hlen).symm⟩

end operands

theorem Token.eq_of_literalWord {t : Token} {text : String} (h : t.word = literalWord text) :
    t.IsText ∧ t.value = text := by
  obtain ⟨hkind, hvalue⟩ := Prod.mk.injEq .. ▸ h
  refine ⟨?_, String.toList_inj.1 hvalue⟩
  split at hkind
  · exact .inl hkind
  · exact .inr hkind

/-- The tokens of some words and a last one. -/
theorem tokens_of_concat {ts : List Token} {ws : List Word} {w : Word}
    (h : ts.map Token.word = ws ++ [w]) :
    ∃ us r, ts = us ++ [r] ∧ us.map Token.word = ws ∧ r.word = w := by
  obtain ⟨us, vs, rfl, hus, hvs⟩ := List.map_eq_append_iff.1 h
  obtain ⟨r, rfl, hr⟩ := List.map_eq_singleton_iff.1 hvs
  exact ⟨us, r, rfl, hus, hr⟩

/-- The tokens of a group are those between two parentheses. -/
theorem tokens_of_groupWords {ts : List Token} {operator : List Char} {wss : List (List Word)}
    (h : ts.map Token.word = groupWords operator wss) :
    ∃ l us r, ts = l :: (us ++ [r]) ∧ l.kind = .leftParen ∧ r.kind = .rightParen ∧
      us.map Token.word = joinedWords operator wss := by
  obtain ⟨l, ts, rfl, hl, h⟩ := List.map_eq_cons_iff.1 h
  obtain ⟨us, r, rfl, hus, hr⟩ := tokens_of_concat h
  exact ⟨l, us, r, rfl, congrArg Prod.fst hl, congrArg Prod.fst hr, hus⟩

/-- A list of values is derived from its words if the values in it are. -/
theorem Joins.vals_of_words {operator : List Char} {wrap : List Values → Values} {vs : List Values}
    (hjoin : Joins operator wrap) (hlen : 2 ≤ vs.length)
    (h : ∀ v ∈ vs, ∀ limit ts, v.nesting ≤ limit → ts.map Token.word = v.words → Vals limit ts v)
    {limit : Nat} (hlimit : Values.nestingList vs + 1 ≤ limit) {ts : List Token}
    (hts : ts.map Token.word = groupWords operator (Values.wordsList vs)) :
    Vals limit ts (wrap vs) := by
  rw [Values.wordsList_eq] at hts
  obtain ⟨l, us, r, rfl, hl, hr, hus⟩ := tokens_of_groupWords hts
  obtain ⟨limit, rfl⟩ := Nat.exists_eq_add_of_le' (Nat.le_trans (Nat.le_add_left 1 _) hlimit)
  refine .group hl (hjoin.disjunction_of_words hlen (fun v hv ts hts ↦ .plain ?_) hus) hr
  exact h v hv _ _ (Nat.le_trans (Values.nesting_le_nestingList hv) (Nat.le_of_succ_le_succ hlimit)) hts

/-- **The values of a field are derived from their words.** -/
theorem Values.vals_of_words {v : Values} (hv : ∀ w ∈ v.subtrees, w.HasOperands) {limit : Nat}
    (hlimit : v.nesting ≤ limit) {ts : List Token} (hts : ts.map Token.word = v.words) :
    Vals limit ts v := by
  induction v using Values.inductionOn generalizing limit ts with
  | literal text =>
    obtain ⟨t, rfl, ht⟩ := List.map_eq_singleton_iff.1 hts
    obtain ⟨htext, rfl⟩ := Token.eq_of_literalWord ht
    exact .literal htext
  | wildcard =>
    obtain ⟨t, rfl, ht⟩ := List.map_eq_singleton_iff.1 hts
    exact .wildcard (congrArg Prod.fst ht)
  | or vs ih =>
    refine Joins.or.vals_of_words (hv _ (self_mem_subtrees _)) (fun v hmem _ _ hle ↦ ?_) hlimit hts
    exact ih v hmem (fun w hw ↦ hv w (mem_subtrees_or.2 (.inr ⟨v, hmem, hw⟩))) hle
  | and vs ih =>
    refine Joins.and.vals_of_words (hv _ (self_mem_subtrees _)) (fun v hmem _ _ hle ↦ ?_) hlimit hts
    exact ih v hmem (fun w hw ↦ hv w (mem_subtrees_and.2 (.inr ⟨v, hmem, hw⟩))) hle
  | not v ih =>
    obtain ⟨l, ts, rfl, hl, hts⟩ := List.map_eq_cons_iff.1 hts
    obtain ⟨n, ts, rfl, hn, hts⟩ := List.map_eq_cons_iff.1 hts
    obtain ⟨us, r, rfl, hus, hr⟩ := tokens_of_concat hts
    rw [nesting] at hlimit
    obtain ⟨limit, rfl⟩ := Nat.exists_eq_add_of_le' (Nat.le_trans (Nat.le_add_left 1 _) hlimit)
    have hin := ih (fun w hw ↦ hv w (mem_subtrees_not.2 (.inr hw))) (Nat.le_of_succ_le_succ hlimit)
      hus
    rw [← List.cons_append]
    exact .group (congrArg Prod.fst hl)
      (Disjunction.of_negatable (.negated (congrArg Prod.fst hn) hin)) (congrArg Prod.fst hr)

/-- The words of a comparison that does not stick are a sign and a literal. -/
theorem tokens_of_comparandWords {ts : List Token} {op : Comparison} {value : String}
    (h : ¬ Sticks op value) (hts : ts.map Token.word = comparandWords op value) :
    ∃ c w : Token, ts = [c, w] ∧ c.kind = .comparison op ∧ w.IsText ∧ w.value = value := by
  rw [comparandWords, if_neg h] at hts
  obtain ⟨c, ts, rfl, hc, hts⟩ := List.map_eq_cons_iff.1 hts
  obtain ⟨w, rfl, hw⟩ := List.map_eq_singleton_iff.1 hts
  exact ⟨c, w, rfl, congrArg Prod.fst hc, Token.eq_of_literalWord hw⟩

/-- A group of trees is derived from its words if the trees in it are. -/
theorem Joins.sub_of_words {operator : List Char} {wrap : List Node → Node} {ns : List Node}
    (hjoin : Joins operator wrap) (hlen : 2 ≤ ns.length)
    (h : ∀ n ∈ ns, ∀ limit ts, n.nesting ≤ limit → ts.map Token.word = n.words →
      Negatable Joined.not (Sub limit) ts n)
    {limit : Nat} (hlimit : Node.nestingList ns + 1 ≤ limit) {ts : List Token}
    (hts : ts.map Token.word = groupWords operator (Node.wordsList ns)) :
    Sub limit ts (wrap ns) := by
  rw [Node.wordsList_eq] at hts
  obtain ⟨l, us, r, rfl, hl, hr, hus⟩ := tokens_of_groupWords hts
  obtain ⟨limit, rfl⟩ := Nat.exists_eq_add_of_le' (Nat.le_trans (Nat.le_add_left 1 _) hlimit)
  refine .group hl (hjoin.disjunction_of_words hlen (fun n hn ts hts ↦ ?_) hus) hr
  exact h n hn _ _ (Nat.le_trans (Node.nesting_le_nestingList hn) (Nat.le_of_succ_le_succ hlimit)) hts

theorem Node.Faithful.of_mem {m n : Node} (hf : n.Faithful)
    (h : ∀ w ∈ m.subtrees, w ∈ n.subtrees) : m.Faithful := fun w hw ↦ hf w (h w hw)

/-- **A faithful tree is derived from its words**, as an operand of a chain. -/
theorem Node.negatable_of_words {n : Node} (hn : ∀ m ∈ n.subtrees, m.HasOperands)
    (hf : n.Faithful) {limit : Nat} (hlimit : n.nesting ≤ limit) {ts : List Token}
    (hts : ts.map Token.word = n.words) : Negatable Joined.not (Sub limit) ts n := by
  induction n using Node.inductionOn generalizing limit ts with
  | and ns ih =>
    refine .plain (Joins.and.sub_of_words (hn _ (self_mem_subtrees _)) (fun m hm _ _ hle ↦ ?_)
      hlimit hts)
    have hin : ∀ w ∈ m.subtrees, w ∈ (Node.and ns).subtrees := fun w hw ↦
      mem_subtrees_and.2 (.inr ⟨m, hm, hw⟩)
    exact ih m hm (fun w hw ↦ hn w (hin w hw)) (hf.of_mem hin) hle
  | or ns ih =>
    refine .plain (Joins.or.sub_of_words (hn _ (self_mem_subtrees _)) (fun m hm _ _ hle ↦ ?_)
      hlimit hts)
    have hin : ∀ w ∈ m.subtrees, w ∈ (Node.or ns).subtrees := fun w hw ↦
      mem_subtrees_or.2 (.inr ⟨m, hm, hw⟩)
    exact ih m hm (fun w hw ↦ hn w (hin w hw)) (hf.of_mem hin) hle
  | not m ih =>
    obtain ⟨t, ts, rfl, ht, hts⟩ := List.map_eq_cons_iff.1 hts
    have hin : ∀ w ∈ m.subtrees, w ∈ (Node.not m).subtrees := fun w hw ↦
      mem_subtrees_not.2 (.inr hw)
    have hm := ih (fun w hw ↦ hn w (hin w hw)) (hf.of_mem hin) hlimit hts
    -- the operand is no `not` again, so nothing stands between it and this one
    cases hm with
    | plain h => exact .negated (congrArg Prod.fst ht) h
    | negated _ h => exact absurd trivial (hf _ (self_mem_subtrees _)).1
  | field name values =>
    obtain ⟨f, us, rfl, hname, hus⟩ := List.map_eq_cons_iff.1 hts
    obtain ⟨c, us, rfl, hc, hus⟩ := List.map_eq_cons_iff.1 hus
    obtain ⟨htext, rfl⟩ := Token.eq_of_literalWord hname
    have hv := Values.vals_of_words (hn _ (self_mem_subtrees _)) hlimit hus
    exact .plain (.field htext (congrArg Prod.fst hc) hv)
  | compare name op value =>
    obtain ⟨f, us, rfl, hname, hus⟩ := List.map_eq_cons_iff.1 hts
    obtain ⟨htext, rfl⟩ := Token.eq_of_literalWord hname
    have hstick : ¬ Kql.Sticks op value := (hf _ (self_mem_subtrees _)).2
    obtain ⟨c, w, rfl, hc, hw, rfl⟩ := tokens_of_comparandWords hstick hus
    exact .plain (.compare htext hc hw)
  | present name =>
    obtain ⟨f, us, rfl, hname, hus⟩ := List.map_eq_cons_iff.1 hts
    obtain ⟨htext, rfl⟩ := Token.eq_of_literalWord hname
    obtain rfl := List.map_eq_nil_iff.1 hus
    exact .plain (.present htext)
  | nested name m ih =>
    obtain ⟨f, ts, rfl, hname, hts⟩ := List.map_eq_cons_iff.1 hts
    obtain ⟨c, ts, rfl, hc, hts⟩ := List.map_eq_cons_iff.1 hts
    obtain ⟨l, ts, rfl, hl, hts⟩ := List.map_eq_cons_iff.1 hts
    obtain ⟨us, r, rfl, hus, hr⟩ := tokens_of_concat hts
    obtain ⟨htext, rfl⟩ := Token.eq_of_literalWord hname
    rw [nesting] at hlimit
    obtain ⟨limit, rfl⟩ := Nat.exists_eq_add_of_le' (Nat.le_trans (Nat.le_add_left 1 _) hlimit)
    have hin : ∀ w ∈ m.subtrees, w ∈ (Node.nested f.value m).subtrees := fun w hw ↦
      mem_subtrees_nested.2 (.inr hw)
    have hm := ih (fun w hw ↦ hn w (hin w hw)) (hf.of_mem hin)
      (Nat.le_of_succ_le_succ hlimit) hus
    exact .plain (.nested htext (congrArg Prod.fst hc) (congrArg Prod.fst hl)
      (Disjunction.of_negatable hm) (congrArg Prod.fst hr))

end LogSearch.Kql
