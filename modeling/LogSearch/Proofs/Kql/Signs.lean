import LogSearch.Proofs.Kql.Rebuilding

/-!
# The signs of a query

A query compares with just the signs that its tokens are, in the same order: the grammar adds none
and drops none.  The text of a tree has the signs of the tree too, except for those that take the
first character of their value and so turn into others.  A tree that is derived from its own words
therefore has none of those.

## What is here

* `signs`, `Node.comparands` — the signs in words, and what a tree compares with;
* `Node.signs_words` — the signs in the text of a tree;
* `IsQuery.signs` — the signs of a query;
* `Node.not_sticks_of_words` — a tree that its own words derive.
-/

set_option autoImplicit false
namespace LogSearch.Kql

/-! ## Signs of comparisons -/

/-- The comparison that a token of a kind is. -/
def TokenKind.sign? : TokenKind → Option Comparison
  | .comparison op => some op
  | _ => none

/-- The comparison that a word is. -/
def Word.sign? (w : Word) : Option Comparison := w.1.sign?

/-- The signs in words, in order. -/
def signs (ws : List Word) : List Comparison := ws.filterMap Word.sign?

/-- What a comparison compares with, and how. -/
def Node.comparand? : Node → Option (Comparison × String)
  | .compare _ op value => some (op, value)
  | _ => none

/-- What a tree compares with, and how, in the order of its text. -/
def Node.comparands (n : Node) : List (Comparison × String) := n.subtrees.filterMap comparand?

/-- The sign that a comparison is printed with. -/
def writtenSign (c : Comparison × String) : Comparison := if Sticks c.1 c.2 then orEqual c.1 else c.1

section comparands

variable {ns : List Node} {n : Node} {name : String}

@[simp] theorem Node.comparands_and : (Node.and ns).comparands = ns.flatMap comparands := by
  rw [comparands, subtrees, List.filterMap_cons_none rfl, subtreesList_eq, List.filterMap_flatMap]
  rfl

@[simp] theorem Node.comparands_or : (Node.or ns).comparands = ns.flatMap comparands := by
  rw [comparands, subtrees, List.filterMap_cons_none rfl, subtreesList_eq, List.filterMap_flatMap]
  rfl

@[simp] theorem Node.comparands_not : (Node.not n).comparands = n.comparands := by
  rw [comparands, subtrees, List.filterMap_cons_none rfl]
  rfl

@[simp] theorem Node.comparands_nested : (Node.nested name n).comparands = n.comparands := by
  rw [comparands, subtrees, List.filterMap_cons_none rfl]
  rfl

end comparands

theorem signs_append (us vs : List Word) : signs (us ++ vs) = signs us ++ signs vs :=
  List.filterMap_append

theorem signs_cons (w : Word) (ws : List Word) : signs (w :: ws) = w.sign?.toList ++ signs ws := by
  rw [signs, List.filterMap_cons]
  cases w.sign? <;> rfl

theorem sign?_operatorWord (operator : List Char) : (operatorWord operator).sign? = none := by
  rw [operatorWord, keywordKind]
  split
  · rfl
  · split <;> rfl

theorem sign?_literalWord (text : String) : (literalWord text).sign? = none := by
  rw [literalWord]
  split <;> rfl

theorem signs_joinedWords (operator : List Char) (wss : List (List Word)) :
    signs (joinedWords operator wss) = wss.flatMap signs := by
  induction wss with
  | nil => rfl
  | cons us wss ih =>
    cases wss with
    | nil => simp [joinedWords]
    | cons vs wss =>
      rw [joinedWords_cons, signs_append, signs_cons, sign?_operatorWord, ih]
      rfl

theorem signs_groupWords (operator : List Char) (wss : List (List Word)) :
    signs (groupWords operator wss) = wss.flatMap signs := by
  rw [groupWords, signs_cons, signs_append, signs_joinedWords]
  exact List.append_nil _

theorem signs_bareWords (cs : List Char) : signs (bareWords cs) = [] := by
  rw [bareWords]
  split
  · rfl
  · split
    · rw [signs_cons, show (keywordKind cs, cs) = operatorWord cs from rfl, sign?_operatorWord]
      rfl
    · rfl

theorem signs_comparandWords (op : Comparison) (value : String) :
    signs (comparandWords op value) = [writtenSign (op, value)] := by
  rw [comparandWords, writtenSign]
  split
  · rw [signs_cons, signs_bareWords]
    rfl
  · rw [signs_cons, signs_cons, sign?_literalWord]
    rfl

theorem Values.signs_words (v : Values) : signs v.words = [] := by
  induction v using Values.inductionOn with
  | literal text => rw [words, signs_cons, sign?_literalWord]; rfl
  | wildcard => rfl
  | or vs ih =>
    rw [words, signs_groupWords, wordsList_eq, List.flatMap_map, List.flatMap_eq_nil_iff]
    exact ih
  | and vs ih =>
    rw [words, signs_groupWords, wordsList_eq, List.flatMap_map, List.flatMap_eq_nil_iff]
    exact ih
  | not v ih =>
    rw [words, signs_cons, signs_cons, sign?_operatorWord, signs_append, ih]
    rfl

/-- The signs in the words of a tree are those it compares with, as they are printed. -/
theorem Node.signs_words (n : Node) : signs n.words = n.comparands.map writtenSign := by
  induction n using Node.inductionOn with
  | and ns ih =>
    rw [words, signs_groupWords, wordsList_eq, List.flatMap_map, comparands_and, List.map_flatMap]
    exact congrArg List.flatten (List.map_congr_left ih)
  | or ns ih =>
    rw [words, signs_groupWords, wordsList_eq, List.flatMap_map, comparands_or, List.map_flatMap]
    exact congrArg List.flatten (List.map_congr_left ih)
  | not n ih =>
    rw [words, signs_cons, sign?_operatorWord, ih, comparands_not]
    rfl
  | field name values =>
    rw [words, signs_cons, sign?_literalWord, signs_cons, values.signs_words]
    rfl
  | compare name op value =>
    rw [words, signs_cons, sign?_literalWord, signs_comparandWords]
    rfl
  | present name =>
    rw [words, signs_cons, sign?_literalWord]
    rfl
  | nested name n ih =>
    rw [words, signs_cons, sign?_literalWord, signs_cons, signs_cons, signs_append, ih,
      comparands_nested]
    exact List.append_nil _

/-! ## Signs of tokens -/

theorem Token.sign?_word {t : Token} {kind : TokenKind} (ht : t.kind = kind) :
    t.word.sign? = kind.sign? := by
  rw [word, Word.sign?, ht]

theorem Token.IsText.sign?_eq_none {t : Token} (ht : t.IsText) : t.word.sign? = none := by
  rcases ht with ht | ht
  · exact Token.sign?_word ht
  · exact Token.sign?_word ht

theorem Separated.signs {α : Type} {separator : TokenKind} {g : α → List Comparison}
    {ts : List Token} {as : List α}
    (h : Separated separator (fun ts a ↦ signs (ts.map Token.word) = g a) ts as)
    (hsep : separator.sign? = none) : Kql.signs (ts.map Token.word) = as.flatMap g := by
  induction h with
  | one h => simpa using h
  | cons h ht _ ih =>
    rw [List.map_append, List.map_cons, signs_append, signs_cons, Token.sign?_word ht, hsep, h,
      ih, List.flatMap_cons]
    rfl

theorem Vals.signs {limit : Nat} {ts : List Token} {v : Values} (h : Vals limit ts v) :
    Kql.signs (ts.map Token.word) = [] := by
  have hchain : ∀ (separator : TokenKind) (ts : List Token) (vs : List Values),
      separator.sign? = none →
      Separated separator (fun ts _ ↦ Kql.signs (ts.map Token.word) = []) ts vs →
      Kql.signs (ts.map Token.word) = [] := by
    intro separator ts vs hsep h
    rw [Separated.signs (g := fun _ ↦ []) h hsep]
    simp
  refine Vals.inductionOn (P := fun ts _ ↦ Kql.signs (ts.map Token.word) = []) ?_ ?_ ?_ ?_ ?_ ?_ h
  · intro l r ts _ hl hr h
    rw [List.map_cons, List.map_append, signs_cons, Token.sign?_word hl, signs_append, h,
      List.map_singleton, signs_cons, Token.sign?_word hr]
    rfl
  · intro t ht
    rw [List.map_singleton, signs_cons, ht.sign?_eq_none]
    rfl
  · intro t ht
    rw [List.map_singleton, signs_cons, Token.sign?_word ht]
    rfl
  · intro t ts _ ht h
    rw [List.map_cons, signs_cons, Token.sign?_word ht, h]
    rfl
  · exact fun ts vs _ h ↦ hchain .and ts vs rfl h
  · exact fun ts vs _ h ↦ hchain .or ts vs rfl h

/-- **The signs of a query are those its tree compares with.** -/
theorem IsQuery.signs {limit : Nat} {ts : List Token} {tree : Node} (h : IsQuery limit ts tree) :
    Kql.signs (ts.map Token.word) = tree.comparands.map Prod.fst := by
  refine IsQuery.inductionOn (Q := fun ts _ ↦ Kql.signs (ts.map Token.word) = [])
    (P := fun ts n ↦ Kql.signs (ts.map Token.word) = n.comparands.map Prod.fst)
    (fun _ _ _ h ↦ h.signs) ?_ ?_ ?_ ?_ ?_ ?_ ?_ ?_ h
  · intro l r ts n hl hr h
    rw [List.map_cons, List.map_append, signs_cons, Token.sign?_word hl, signs_append, h,
      List.map_singleton, signs_cons, Token.sign?_word hr]
    exact List.append_nil _
  · intro f c l r ts n hf hc hl hr h
    rw [List.map_cons, List.map_cons, List.map_cons, List.map_append, signs_cons,
      hf.sign?_eq_none, signs_cons, Token.sign?_word hc, signs_cons,
      Token.sign?_word hl, signs_append, h, List.map_singleton, signs_cons,
      Token.sign?_word hr, Node.comparands_nested]
    exact List.append_nil _
  · intro f c ts v hf hc h
    rw [List.map_cons, List.map_cons, signs_cons, hf.sign?_eq_none, signs_cons,
      Token.sign?_word hc, h]
    rfl
  · intro f c w op hf hc hw
    have hop : c.word.sign? = some op := Token.sign?_word hc
    rw [List.map_cons, List.map_cons, List.map_singleton, signs_cons, hf.sign?_eq_none, signs_cons,
      hop, signs_cons, hw.sign?_eq_none]
    rfl
  · intro f hf
    rw [List.map_singleton, signs_cons, hf.sign?_eq_none]
    rfl
  · intro t ts n ht h
    rw [List.map_cons, signs_cons, Token.sign?_word ht, h, Node.comparands_not]
    rfl
  · intro ts ns _ h
    rw [Separated.signs h rfl, Node.comparands_and, List.map_flatMap]
  · intro ts ns _ h
    rw [Separated.signs h rfl, Node.comparands_or, List.map_flatMap]

/-- A sign that sticks is not the one that was meant. -/
theorem not_sticks_of_writtenSign_eq {c : Comparison × String} (h : writtenSign c = c.1) :
    ¬ Sticks c.1 c.2 := by
  intro hs
  rw [writtenSign, if_pos hs] at h
  rcases hs.1 with hop | hop <;> rw [hop] at h <;> cases h

/-- No sign of a tree takes a character of its value if the words of the tree derive it. -/
theorem Node.not_sticks_of_words {limit : Nat} {ts : List Token} {n : Node}
    (hts : ts.map Token.word = n.words) (h : IsQuery limit ts n) {m : Node}
    (hm : m ∈ n.subtrees) : ¬ m.Sticks := by
  have hsigns := h.signs
  rw [hts, signs_words, List.map_inj_left] at hsigns
  cases m with
  | compare name op value =>
    have hin : (op, value) ∈ n.comparands := List.mem_filterMap.2 ⟨_, hm, rfl⟩
    exact not_sticks_of_writtenSign_eq (hsigns _ hin)
  | _ => exact not_false

end LogSearch.Kql
