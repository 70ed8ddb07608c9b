import LogSearch.Proofs.Kql.Acceptance
import LogSearch.Proofs.Kql.Rebuilding

/-!
# How deep a printed tree goes

The groups in the text of a tree stand inside each other as its nodes do.  So the tokens of the text
close all groups that they open, and have `Node.nesting` of them open at most (`Balanced`).

## What is here

* `Balanced` — tokens that close what they open, with `Balanced.append` and `Balanced.group`;
* `Values.balanced_of_words`, `Node.balanced_of_words` — the tokens of a printed tree;
* `Node.nesting_le_of_isQuery` — the limits under which its text can be read.
-/

set_option autoImplicit false
namespace LogSearch.Kql

/-! ## Tokens that close what they open -/

/-- The tokens close all groups that they open, and have so many of them open at most. -/
def Balanced (ts : List Token) (k : Nat) : Prop :=
  ∀ depth rest, deepest depth (ts ++ rest) = max (depth + k) (deepest depth rest)

/-- A kind of token that opens or closes a group. -/
def TokenKind.Delimits : TokenKind → Prop
  | .leftParen | .rightParen | .leftBrace | .rightBrace => True
  | _ => False

theorem Token.depthAfter_of_not_delimits {t : Token} (h : ¬ t.kind.Delimits) (depth : Nat) :
    t.depthAfter depth = depth := by
  rw [depthAfter]
  cases hk : t.kind <;> rw [hk] at h <;> first | rfl | exact absurd trivial h

section balanced

variable {ts us vs : List Token} {l r : Token} {j k : Nat}

theorem Balanced.append (hu : Balanced us j) (hv : Balanced vs k) : Balanced (us ++ vs) (max j k) := by
  intro depth rest
  rw [List.append_assoc, hu, hv]
  omega

/-- Tokens that are no delimiters leave the depth as it is. -/
theorem balanced_of_not_delimits (h : ∀ w ∈ ts.map Token.word, ¬ w.1.Delimits) : Balanced ts 0 := by
  intro depth rest
  induction ts with
  | nil => exact (Nat.max_eq_right (le_deepest depth rest)).symm
  | cons t ts ih =>
    obtain ⟨ht, hts⟩ := List.forall_mem_cons.1 h
    rw [List.cons_append, deepest, Token.depthAfter_of_not_delimits ht, ih hts]
    omega

/-- Such tokens in front of others. -/
theorem Balanced.behind (h : Balanced us k) (hts : ∀ w ∈ ts.map Token.word, ¬ w.1.Delimits) :
    Balanced (ts ++ us) k := by
  have hall := (balanced_of_not_delimits hts).append h
  rwa [Nat.zero_max] at hall

theorem Balanced.group (h : Balanced us k) (hl : l.Opens)
    (hr : r.kind = .rightParen ∨ r.kind = .rightBrace) : Balanced (l :: (us ++ [r])) (k + 1) := by
  intro depth rest
  have hclose : r.depthAfter (depth + 1) = depth := by
    rcases hr with hr | hr <;> rw [Token.depthAfter, hr] <;> rfl
  rw [List.cons_append, List.append_assoc, deepest, Token.depthAfter_of_opens hl, h,
    List.singleton_append, deepest, hclose]
  omega

theorem Balanced.deepest_eq (h : Balanced ts k) : deepest 0 ts = k := by
  have hend := h 0 []
  rw [List.append_nil, deepest] at hend
  omega

end balanced

/-! ## The tokens of a tree -/

theorem not_delimits_operatorWord (operator : List Char) : ¬ (operatorWord operator).1.Delimits := by
  rw [operatorWord, keywordKind]
  split
  · exact id
  · split <;> exact id

theorem not_delimits_literalWord (text : String) : ¬ (literalWord text).1.Delimits := by
  rw [literalWord]
  split <;> exact id

theorem not_delimits_comparandWords (op : Comparison) (value : String) :
    ∀ w ∈ comparandWords op value, ¬ w.1.Delimits := by
  rw [comparandWords]
  split
  · refine List.forall_mem_cons.2 ⟨id, ?_⟩
    rw [bareWords]
    split
    · simp
    · rw [List.forall_mem_singleton]
      split
      · exact not_delimits_operatorWord _
      · exact id
  · refine List.forall_mem_cons.2 ⟨id, List.forall_mem_singleton.2 ?_⟩
    exact not_delimits_literalWord value

/-- The name of a field and its colon. -/
theorem not_delimits_field {f c : Token} {name : String} (hf : f.word = literalWord name)
    (hc : c.word = (.colon, [':'])) : ∀ w ∈ [f, c].map Token.word, ¬ w.1.Delimits := by
  rw [List.map_cons, List.map_singleton, hf, hc]
  exact List.forall_mem_cons.2 ⟨not_delimits_literalWord name, List.forall_mem_singleton.2 id⟩

theorem balanced_of_joinedWords {α : Type} {cut : α → List Word} {depth : α → Nat}
    {operator : List Char} {as : List α} {ts : List Token}
    (h : ∀ a ∈ as, ∀ ts : List Token, ts.map Token.word = cut a → Balanced ts (depth a))
    (hts : ts.map Token.word = joinedWords operator (as.map cut)) :
    Balanced ts ((as.map depth).foldr max 0) := by
  induction as generalizing ts with
  | nil => exact balanced_of_not_delimits (by simp [hts, joinedWords])
  | cons a as ih =>
    have ha := h a List.mem_cons_self
    have has := fun b hb ↦ h b (List.mem_cons_of_mem _ hb)
    cases as with
    | nil =>
      have hone := ha ts hts
      rwa [← Nat.max_zero (depth a)] at hone
    | cons b bs =>
      rw [List.map_cons, List.map_cons, joinedWords_cons, List.map_eq_append_iff] at hts
      obtain ⟨us, vs, rfl, hus, hvs⟩ := hts
      obtain ⟨t, vs, rfl, ht, hvs⟩ := List.map_eq_cons_iff.1 hvs
      have hsep : ∀ w ∈ [t].map Token.word, ¬ w.1.Delimits := by
        simp [ht, not_delimits_operatorWord]
      exact (ha us hus).append ((ih has hvs).behind hsep)

theorem balanced_of_groupWords {α : Type} {cut : α → List Word} {depth : α → Nat}
    {operator : List Char} {as : List α} {ts : List Token}
    (h : ∀ a ∈ as, ∀ ts : List Token, ts.map Token.word = cut a → Balanced ts (depth a))
    (hts : ts.map Token.word = groupWords operator (as.map cut)) :
    Balanced ts ((as.map depth).foldr max 0 + 1) := by
  obtain ⟨l, us, r, rfl, hl, hr, hus⟩ := tokens_of_groupWords hts
  exact (balanced_of_joinedWords h hus).group (.inl hl) (.inl hr)

theorem Values.nestingList_eq (vs : List Values) :
    Values.nestingList vs = (vs.map nesting).foldr max 0 := by
  induction vs with
  | nil => rfl
  | cons v vs ih => rw [nestingList, ih, List.map_cons, List.foldr_cons]

theorem Node.nestingList_eq (ns : List Node) :
    Node.nestingList ns = (ns.map nesting).foldr max 0 := by
  induction ns with
  | nil => rfl
  | cons n ns ih => rw [nestingList, ih, List.map_cons, List.foldr_cons]

theorem Values.balanced_of_words {v : Values} {ts : List Token} (hts : ts.map Token.word = v.words) :
    Balanced ts v.nesting := by
  induction v using Values.inductionOn generalizing ts with
  | literal text =>
    refine balanced_of_not_delimits ?_
    rw [hts, words, List.forall_mem_singleton]
    exact not_delimits_literalWord text
  | wildcard =>
    refine balanced_of_not_delimits ?_
    rw [hts, words, List.forall_mem_singleton]
    exact id
  | or vs ih =>
    rw [words, wordsList_eq] at hts
    rw [nesting, nestingList_eq]
    exact balanced_of_groupWords (fun v hv _ ↦ ih v hv) hts
  | and vs ih =>
    rw [words, wordsList_eq] at hts
    rw [nesting, nestingList_eq]
    exact balanced_of_groupWords (fun v hv _ ↦ ih v hv) hts
  | not v ih =>
    obtain ⟨l, ts, rfl, hl, hts⟩ := List.map_eq_cons_iff.1 hts
    rw [← List.cons_append] at hts
    obtain ⟨us, r, rfl, hus, hr⟩ := tokens_of_concat hts
    obtain ⟨n, us, rfl, hn, hus⟩ := List.map_eq_cons_iff.1 hus
    have hnot : ∀ w ∈ [n].map Token.word, ¬ w.1.Delimits := by
      simp [hn, not_delimits_operatorWord]
    exact ((ih hus).behind hnot).group (.inl (congrArg Prod.fst hl)) (.inl (congrArg Prod.fst hr))

/-- **The tokens of a printed tree** close what they open, and have as many groups open as the tree
has inside each other. -/
theorem Node.balanced_of_words {n : Node} {ts : List Token} (hts : ts.map Token.word = n.words) :
    Balanced ts n.nesting := by
  induction n using Node.inductionOn generalizing ts with
  | and ns ih =>
    rw [words, wordsList_eq] at hts
    rw [nesting, nestingList_eq]
    exact balanced_of_groupWords (fun n hn _ ↦ ih n hn) hts
  | or ns ih =>
    rw [words, wordsList_eq] at hts
    rw [nesting, nestingList_eq]
    exact balanced_of_groupWords (fun n hn _ ↦ ih n hn) hts
  | not n ih =>
    obtain ⟨t, ts, rfl, ht, hts⟩ := List.map_eq_cons_iff.1 hts
    have hnot : ∀ w ∈ [t].map Token.word, ¬ w.1.Delimits := by
      simp [ht, not_delimits_operatorWord]
    exact (ih hts).behind hnot
  | field name values =>
    obtain ⟨f, ts, rfl, hf, hts⟩ := List.map_eq_cons_iff.1 hts
    obtain ⟨c, ts, rfl, hc, hts⟩ := List.map_eq_cons_iff.1 hts
    exact (Values.balanced_of_words hts).behind (not_delimits_field hf hc)
  | compare name op value =>
    refine balanced_of_not_delimits ?_
    rw [hts, words]
    exact List.forall_mem_cons.2 ⟨not_delimits_literalWord name, not_delimits_comparandWords op value⟩
  | present name =>
    refine balanced_of_not_delimits ?_
    rw [hts, words, List.forall_mem_singleton]
    exact not_delimits_literalWord name
  | nested name n ih =>
    obtain ⟨f, ts, rfl, hf, hts⟩ := List.map_eq_cons_iff.1 hts
    obtain ⟨c, ts, rfl, hc, hts⟩ := List.map_eq_cons_iff.1 hts
    obtain ⟨l, ts, rfl, hl, hts⟩ := List.map_eq_cons_iff.1 hts
    obtain ⟨us, r, rfl, hus, hr⟩ := tokens_of_concat hts
    have hgroup := (ih hus).group (.inr (congrArg Prod.fst hl)) (.inr (congrArg Prod.fst hr))
    exact hgroup.behind (not_delimits_field hf hc)

/-- A tree is read only under limits that its nesting keeps to. -/
theorem Node.nesting_le_of_isQuery {n : Node} {limit : Nat} {ts : List Token} {tree : Node}
    (hts : ts.map Token.word = n.words) (h : IsQuery limit ts tree) : n.nesting ≤ limit := by
  rw [← (balanced_of_words hts).deepest_eq]
  exact (isQuery_iff_deepest.1 h).2

end LogSearch.Kql
